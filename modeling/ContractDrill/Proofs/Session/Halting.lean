import ContractDrill.Proofs.Screen.Echo
import ContractDrill.Proofs.Session.Closing

/-!
# Halts and echoes

A halt can always be shown, and so can the line with a command: the texts in them are escaped, and
no part of them becomes a tag of the markup around them (`escapeLaw`).

Behind the panel of a halt stand the outputs of the command that failed, as they stand behind a
command that went well (`echoLaw`): without the line feeds at their end, in lines of any length, but
with spaces in place of tabs and without the few characters that the screen drops.
-/

namespace ContractDrill

open Markup

namespace Report

/-! ### Escaped texts -/

/-- The markup of a halt. -/
def haltMarkup (reason : String) : String :=
  s!"[bold white]{literally reason}[/bold white]"

/-- A halt up to its panel. -/
def haltFrame (reason : String) : Report :=
  [blank, .panel (some "  HALT  ".toList) ⟨0, 2⟩ (.text .running (haltMarkup reason))]

/-- A halt is its frame with the outputs of the command and an empty line. -/
theorem halt_eq (reason : String) (details : List String) :
    halt reason details = haltFrame reason ++ details.flatMap echo ++ [blank] :=
  rfl

/-- The markup of a line with a command. -/
def commandMarkup (argv : List String) : String :=
  let command := literally (" ".intercalate argv)
  s!"  [blue]→[/blue] [dim]{command}[/dim]"

/-- The tokens in front of a command: an arrow in a style of its own. -/
def commandFront : List Token :=
  [.char ' ', .char ' ', .tag 0 "blue".toList, .char '→', .tag 0 "/blue".toList, .char ' ']

theorem nodeCall_eq (argv : List String) : nodeCall argv = [line (commandMarkup argv)] :=
  rfl

/-- Behind the tokens `front` the markup is the escaped text between the tags of a style.  No token
of the text is a tag; backslashes at its end join the closing tag. -/
def Escapes (markup : String) (front : List Token) (style s : String) : Prop :=
  ∃ inner backslashes, (∀ token ∈ inner, token.IsText) ∧
    inner.flatMap Token.text ++ List.replicate backslashes '\\' = escape s.toList ∧
    tokens markup.toList =
      front ++ .tag 0 style.toList :: inner ++ [.tag backslashes ('/' :: style.toList)]

/-- Between the tags of a style an escaped text has only text, and backslashes at its end. -/
theorem exists_tokens_escaped {style : String} (h : IsStyle style.toList) (s : String) :
    ∃ inner backslashes, (∀ token ∈ inner, token.IsText) ∧
      inner.flatMap Token.text ++ List.replicate backslashes '\\' = escape s.toList ∧
      tokens (Piece.styled style (literally s)).chars =
        .tag 0 style.toList :: inner ++ [.tag backslashes ('/' :: style.toList)] := by
  obtain ⟨front, backslashes, hescape, hlast, htext⟩ := exists_escape_eq s.toList
  have htokens := tokens_styled_append h hlast backslashes []
  rw [List.append_nil, tokens_nil, ← hescape] at htokens
  refine ⟨tokens front, backslashes, htext, ?_, ?_⟩
  · rw [flatMap_text_tokens, hescape]
  · rw [Piece.chars, literally, String.toList_ofList, htokens]
    rfl

/-- The reason of a halt is escaped, with nothing in front of its style. -/
theorem escapes_haltMarkup (reason : String) :
    Escapes (haltMarkup reason) [] "bold white" reason := by
  have hmarkup : (haltMarkup reason).toList =
      (Piece.styled "bold white" (literally reason)).chars := by
    simp [haltMarkup, Piece.chars, toString]
  obtain ⟨inner, backslashes, htext, hescape, htokens⟩ :=
    exists_tokens_escaped (isStyle_of_mem (by decide : "bold white" ∈ styles)) reason
  exact ⟨inner, backslashes, htext, hescape, by rw [hmarkup, htokens]; rfl⟩

/-- What stands in front of a command is the same for all of them. -/
theorem tokens_commandFront (rest : List Char) :
    tokens ((Piece.text "  ").chars ++ ((Piece.styled "blue" "→").chars ++
      ((Piece.text " ").chars ++ rest))) = commandFront ++ tokens rest := by
  have hblue : IsStyle "blue".toList := isStyle_of_mem (by decide)
  have hindent : IsPlain "  ".toList := by decide
  have harrow : IsPlain "→".toList := by decide
  have hspace : IsPlain " ".toList := by decide
  simp only [Piece.chars]
  rw [tokens_append_of_isPlain hindent, tokens_styled hblue harrow,
    tokens_append_of_isPlain hspace]
  rfl

/-- The words of a command are escaped. -/
theorem escapes_commandMarkup (argv : List String) :
    Escapes (commandMarkup argv) commandFront "dim" (" ".intercalate argv) := by
  have hmarkup : (commandMarkup argv).toList =
      (Piece.text "  ").chars ++ ((Piece.styled "blue" "→").chars ++ ((Piece.text " ").chars ++
        (Piece.styled "dim" (literally (" ".intercalate argv))).chars)) := by
    unfold commandMarkup
    dsimp only
    generalize literally (" ".intercalate argv) = command
    simp [Piece.chars, toString]
  obtain ⟨inner, backslashes, htext, hescape, htokens⟩ :=
    exists_tokens_escaped (isStyle_of_mem (by decide : "dim" ∈ styles)) (" ".intercalate argv)
  refine ⟨inner, backslashes, htext, hescape, ?_⟩
  rw [hmarkup, tokens_commandFront, htokens]
  simp

/-- What is escaped cannot spoil a report. -/
structure EscapeLaw : Prop where
  halt : ∀ reason details,
    Report.halt reason details = haltFrame reason ++ details.flatMap echo ++ [blank] ∧
    (∀ width, ((Report.halt reason details).present width).2 = none) ∧
    Escapes (haltMarkup reason) [] "bold white" reason
  nodeCall : ∀ argv,
    Report.nodeCall argv = [line (commandMarkup argv)] ∧
    (∀ width, ((Report.nodeCall argv).present width).2 = none) ∧
    Escapes (commandMarkup argv) commandFront "dim" (" ".intercalate argv)

/-- **Escaped texts in reports.**  Halts and commands are shown whatever is in them, and no part of
what is in them is taken for a tag. -/
theorem escapeLaw : EscapeLaw where
  halt reason details :=
    ⟨halt_eq reason details, snd_present_of_legible (legible_halt reason details),
      escapes_haltMarkup reason⟩
  nodeCall argv :=
    ⟨nodeCall_eq argv, snd_present_of_legible (legible_nodeCall argv), escapes_commandMarkup argv⟩

/-! ### Echoes -/

/-- What the console gets of an output: the output without the line feeds at its end, as the screen
renders it, in lines of its own; nothing for nothing. -/
structure Echoed (output : String) (text : List Char) : Prop where
  nothing : output = "" → text = []
  lines : output ≠ "" → ∃ body count shown,
    output.toList = body ++ List.replicate count '\n' ∧ body.getLast? ≠ some '\n' ∧
    text = shown ++ ['\n'] ∧ Renders body shown ∧
    (shown = body ↔ ∀ c ∈ output.toList, c ≠ '\t' ∧ isDropped c = false)

/-- An output is echoed in every width, without an error. -/
theorem echoed_echo (width : Nat) (output : String) :
    ((echo output).present width).2 = none ∧
      Echoed output (consoleText ((echo output).present width).1) := by
  unfold echo
  split
  · rename_i hnothing
    exact ⟨rfl, fun _ => rfl, fun hne => absurd hnothing hne⟩
  · rename_i hne
    obtain ⟨body, count, houtput, hbody⟩ := exists_eq_append_replicate '\n' output.toList
    rw [houtput, trimEndBy_append_replicate hbody]
    obtain ⟨lines, shown, hlines, htext, hrenders⟩ :=
      exists_renders_verbatim width (String.ofList body)
    rw [String.toList_ofList] at hrenders
    rw [hlines]
    refine ⟨rfl, fun hnothing => absurd hnothing hne, fun _ => ?_⟩
    refine ⟨body, count, shown, houtput, hbody, htext, hrenders, ?_⟩
    -- The line feeds at the end are dropped by nobody, so they make no difference.
    rw [hrenders.eq_iff, houtput, List.forall_mem_append]
    refine ⟨fun h => ⟨h, fun c hc => ?_⟩, And.left⟩
    rw [List.eq_of_mem_replicate hc]
    decide

theorem consoleText_append (lines more : List Line) :
    consoleText (lines ++ more) = consoleText lines ++ consoleText more :=
  List.flatMap_append

/-- Outputs are echoed one after the other. -/
theorem exists_echoes (width : Nat) (details : List String) :
    ∃ echoes, List.Forall₂ Echoed details echoes ∧
      ((present width (details.flatMap echo)).2 = none) ∧
      consoleText (present width (details.flatMap echo)).1 = echoes.flatten := by
  induction details with
  | nil => exact ⟨[], .nil, rfl, rfl⟩
  | cons output details ih =>
    obtain ⟨echoes, hechoes, hnone, htext⟩ := ih
    obtain ⟨hfirst, hechoed⟩ := echoed_echo width output
    refine ⟨_ :: echoes, .cons hechoed hechoes, ?_, ?_⟩
    · rw [List.flatMap_cons, present_append hfirst]
      exact hnone
    · rw [List.flatMap_cons, present_append hfirst, consoleText_append, htext, List.flatten_cons]

/-- The frame of a halt can be shown, whatever the reason. -/
theorem legible_haltFrame (reason : String) : Legible (haltFrame reason) := by
  intro block hblock
  exact legible_halt reason [] block (List.mem_append_left _ (List.mem_append_left _ hblock))

/-- Behind the panel of a halt its details are echoed. -/
theorem exists_echoes_halt (width : Nat) (reason : String) (details : List String) :
    ∃ echoes, List.Forall₂ Echoed details echoes ∧
      ((halt reason details).present width).2 = none ∧
      consoleText ((halt reason details).present width).1 =
        consoleText ((haltFrame reason).present width).1 ++ echoes.flatten ++ ['\n'] := by
  obtain ⟨echoes, hechoes, hnone, htext⟩ := exists_echoes width details
  have hframe := snd_present_of_legible (legible_haltFrame reason) width
  have hfront : (present width (haltFrame reason ++ details.flatMap echo)).2 = none := by
    rw [present_append hframe]
    exact hnone
  refine ⟨echoes, hechoes, snd_present_of_legible (legible_halt reason details) width, ?_⟩
  rw [halt_eq, present_append hfront, present_append hframe, consoleText_append,
    consoleText_append, htext]
  rfl

end Report

namespace Session

open Report

variable {session : Session}

/-- A run that fails for a command shows its log, the panel of the halt, and both outputs of the
command. -/
theorem exists_echoes_reportedRun {script : List TimedReply} {now : Binary64}
    {failed : Reply.Failed} {between : SessionState}
    (h : session.run.run (.initial script now) = (.error (.command failed), between)) :
    ∃ output errors, Echoed failed.output output ∧ Echoed failed.errors errors ∧
      Ends session.reportedRun (.initial script now)
        (fun code final => code = failed.exitCode ∧
          consoleText final.shown = consoleText between.shown ++
            consoleText ((summary between.log).present session.width).1 ++
            consoleText ((haltFrame failed.message).present session.width).1 ++
            output ++ errors ++ ['\n'])
        fun _ _ => False := by
  have hlog := (session.ends_run_showsPlain script now).of_eq_error h
  have hsummary := snd_present_of_legible (legible_summary hlog) session.width
  obtain ⟨echoes, hechoes, hnone, htext⟩ :=
    exists_echoes_halt session.width failed.message [failed.output, failed.errors]
  -- There are two outputs, that of the command and its errors.
  cases hechoes with
  | cons houtput hrest =>
    cases hrest with
    | cons herrors hnil =>
      cases hnil
      refine ⟨_, _, houtput, herrors, ?_⟩
      rw [ends_reportedRun_of_error h rfl, ends_bind, ends_present_of_none hsummary]
      change Ends (session.present (halt failed.message [failed.output, failed.errors])) _ _ _
      rw [ends_present_of_none hnone]
      refine ⟨rfl, ?_⟩
      change consoleText (between.shown ++ _ ++ _) = _
      rw [consoleText_append, consoleText_append, htext]
      simp

/-- What the console of a session gets of the outputs of commands. -/
structure EchoLaw (session : Session) (output reason : String) (details : List String) :
    Prop where
  nodeOutput :
    ((echo output).present session.width).2 = none ∧
      Echoed output (consoleText ((echo output).present session.width).1)
  /-- Behind the panel of a halt stand its details, in their order. -/
  halt : ∃ echoes,
    List.Forall₂ Echoed details echoes ∧
      ((Report.halt reason details).present session.width).2 = none ∧
      consoleText ((Report.halt reason details).present session.width).1 =
        consoleText ((haltFrame reason).present session.width).1 ++ echoes.flatten ++ ['\n']
  /-- A run that fails for a command ends with both outputs of the command. -/
  failing : ∀ (script : List TimedReply) (now : Binary64) (failed : Reply.Failed)
    (between : SessionState),
    session.run.run (.initial script now) = (.error (.command failed), between) →
    ∃ output errors, Echoed failed.output output ∧ Echoed failed.errors errors ∧
      Ends session.reportedRun (.initial script now)
        (fun code final => code = failed.exitCode ∧
          consoleText final.shown = consoleText between.shown ++
            consoleText ((summary between.log).present session.width).1 ++
            consoleText ((haltFrame failed.message).present session.width).1 ++
            output ++ errors ++ ['\n'])
        fun _ _ => False

/-- **Outputs on the screen.**  An output is echoed without the line feeds at its end, in lines of
any length, with nothing changed in it but its tabs and the few characters that the screen drops;
so it is echoed as it is just if it has none of them. -/
theorem echoLaw (session : Session) (output reason : String) (details : List String) :
    EchoLaw session output reason details where
  nodeOutput := echoed_echo session.width output
  halt := exists_echoes_halt session.width reason details
  failing _ _ _ _ h := exists_echoes_reportedRun h

/-- An output with a tab is not echoed as it is. -/
theorem not_forall_echo_verbatim :
    ¬ ∀ (width : Nat) (output : String) (body : List Char) (count : Nat), output ≠ "" →
      output.toList = body ++ List.replicate count '\n' → body.getLast? ≠ some '\n' →
      consoleText ((echo output).present width).1 = body ++ ['\n'] := by
  intro hverbatim
  have htext := hverbatim 80 "a\tb" "a\tb".toList 0 (by decide) (by simp) (by decide)
  exact absurd htext (by decide +kernel)

end Session

end ContractDrill
