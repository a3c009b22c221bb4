import ContractDrill.Proofs.Screen.Escaped
import ContractDrill.Session.Reports

/-!
# Legible reports

What a session shows on its way is legible as long as the texts that it puts between tags are plain:
the address of the node, the names and descriptions of its steps, and the contract.  Commands are
escaped, so they are legible whatever is in them (`legible_nodeCall`).
-/

namespace ContractDrill

open Markup

namespace Report

/-- The styles of the reports. -/
def styles : List String :=
  ["bold cyan", "dim", "white", "cyan", "blue", "bold green", "yellow", "dim yellow", "bold white"]

theorem isStyle_of_mem {style : String} (h : style ∈ styles) : IsStyle style.toList := by
  have hall : styles.all (fun style => checksStyle style.toList) = true := by decide +kernel
  exact isStyle_of_checksStyle (List.all_eq_true.mp hall style h)

/-- The text has no part in a tag wherever it stands in markup. -/
def Plain (s : String) : Prop :=
  IsPlain s.toList

instance (s : String) : Decidable (Plain s) :=
  inferInstanceAs (Decidable (IsPlain s.toList))

theorem sound_text {s : String} (h : Plain s ∧ ':' ∉ s.toList) : (Piece.text s).IsSound :=
  h

/-- A plain text in one of the styles of the reports is sound. -/
theorem sound_styled {style s : String} (hstyle : style ∈ styles) (h : Plain s) :
    (Piece.styled style s).IsSound :=
  ⟨isStyle_of_mem hstyle, h⟩

/-- A line of sound pieces. -/
theorem legible_line {markup : String} (pieces : List Piece)
    (h : ∀ piece ∈ pieces, piece.IsSound) (hmarkup : markup.toList = pieces.flatMap Piece.chars) :
    (line markup).Legible :=
  Block.legible_text _ (isLegible_of_pieces pieces h hmarkup)

/-- A line that shows a plain text in a style behind two spaces. -/
theorem legible_indented {markup style s : String} (hstyle : style ∈ styles) (h : Plain s)
    (hmarkup : markup.toList = ' ' :: ' ' :: (Piece.styled style s).chars) :
    (line markup).Legible := by
  refine legible_line [.text "  ", .styled style s] ?_ (by simpa [Piece.chars] using hmarkup)
  simp only [List.forall_mem_cons, List.not_mem_nil, false_imp_iff, implies_true, and_true]
  exact ⟨sound_text (by decide), sound_styled hstyle h⟩

theorem legible_singleton {block : Block} (h : block.Legible) : Legible [block] := by
  simpa [Legible] using h

/-! ### Reports in pieces -/

/-- The markup of pieces. -/
def markupOf (pieces : List Piece) : String :=
  String.ofList (pieces.flatMap Piece.chars)

/-- The pieces of the banner. -/
def bannerPieces (settings : Settings) : List Piece :=
  [.styled "bold cyan" "CronCat Deployment & Exercise Harness", .text "\n",
    .styled "dim" "instantiate → register agent → create tasks → proxy_call ×2", .text "\n\n",
    .styled "dim" "Node     :", .text " ", .styled "white" settings.node, .text "\n",
    .styled "dim" "Chain ID :", .text " ", .styled "white" settings.chainId, .text "\n",
    .styled "dim" "Code ID  :", .text " ", .styled "white" (toString settings.codeId)]

set_option maxRecDepth 4000 in
/-- The banner in pieces. -/
theorem banner_eq (settings : Settings) :
    banner settings =
      [blank, .panel none ⟨1, 4⟩ (.text .running (markupOf (bannerPieces settings)))] := by
  have hmarkup : "[bold cyan]CronCat Deployment & Exercise Harness[/bold cyan]\n" ++
      "[dim]instantiate → register agent → create tasks → proxy_call ×2[/dim]\n\n" ++
      s!"[dim]Node     :[/dim] [white]{settings.node}[/white]\n" ++
      s!"[dim]Chain ID :[/dim] [white]{settings.chainId}[/white]\n" ++
      s!"[dim]Code ID  :[/dim] [white]{settings.codeId}[/white]" =
        markupOf (bannerPieces settings) := by
    refine String.toList_inj.mp ?_
    simp [markupOf, bannerPieces, Piece.chars, toString]
  rw [banner, hmarkup]

/-- The piece of the title of a step. -/
def titlePieces (name : String) : List Piece :=
  [.styled "cyan" (String.ofList (upperCase name.toList))]

/-- The pieces of the description of a step. -/
def descriptionPieces (description : String) : List Piece :=
  [.text "  ", .styled "white" description]

theorem stepStart_eq (name description : String) :
    stepStart name description =
      [blank, .rule (markupOf (titlePieces name)),
        line (markupOf (descriptionPieces description))] := by
  have htitle : s!"[cyan]{String.ofList (upperCase name.toList)}[/cyan]" =
      markupOf (titlePieces name) := by
    refine String.toList_inj.mp ?_
    simp [markupOf, titlePieces, Piece.chars, toString]
  have hdescription : s!"  [white]{description}[/white]" =
      markupOf (descriptionPieces description) := by
    refine String.toList_inj.mp ?_
    simp [markupOf, descriptionPieces, Piece.chars, toString]
  rw [stepStart, htitle, hdescription]

/-- The pieces of the line with an address. -/
def addressPieces (address : String) : List Piece :=
  [.text "  ", .styled "bold green" "✓ Contract address", .text "  ", .styled "white" address]

theorem contractResolved_eq (address : String) :
    contractResolved address = [line (markupOf (addressPieces address))] := by
  have hmarkup : s!"  [bold green]✓ Contract address[/bold green]  [white]{address}[/white]" =
      markupOf (addressPieces address) := by
    refine String.toList_inj.mp ?_
    simp [markupOf, addressPieces, Piece.chars, toString]
  rw [contractResolved, hmarkup]

/-- The pieces of the text at the end of a session that came through. -/
def completedPieces (contract : String) : List Piece :=
  [.styled "white" "All steps completed against", .text " ", .styled "bold white" contract]

theorem completed_eq (contract : String) :
    completed contract =
      [blank,
        .panel (some "  DONE  ".toList) ⟨1, 2⟩
          (.text .running (markupOf (completedPieces contract))),
        blank] := by
  have hmarkup :
      s!"[white]All steps completed against[/white] [bold white]{contract}[/bold white]" =
        markupOf (completedPieces contract) := by
    refine String.toList_inj.mp ?_
    simp [markupOf, completedPieces, Piece.chars, toString]
  rw [completed, hmarkup]

section

variable {shown : Piece → List Char}

/-- Markup of pieces is legible if each piece shows something. -/
theorem isLegible_markupOf {pieces : List Piece}
    (h : ∀ piece ∈ pieces, piece.Shows (shown piece)) : isLegible (markupOf pieces) = true :=
  isLegible_of_shows h String.toList_ofList

/-- The banner is legible if each of its pieces shows something. -/
theorem legible_banner_of_shows {settings : Settings}
    (h : ∀ piece ∈ bannerPieces settings, piece.Shows (shown piece)) :
    Legible (banner settings) := by
  rw [banner_eq]
  have hpanel := (Block.legible_text .running (isLegible_markupOf h)).panel none ⟨1, 4⟩
  exact List.forall_mem_cons.mpr ⟨legible_blank, legible_singleton hpanel⟩

theorem legible_stepStart_of_shows {name description : String}
    (hname : ∀ piece ∈ titlePieces name, piece.Shows (shown piece))
    (hdescription : ∀ piece ∈ descriptionPieces description, piece.Shows (shown piece)) :
    Legible (stepStart name description) := by
  rw [stepStart_eq]
  have hrule := Block.legible_rule (isLegible_markupOf hname)
  have hline := Block.legible_text .running (isLegible_markupOf hdescription)
  exact List.forall_mem_cons.mpr ⟨legible_blank,
    List.forall_mem_cons.mpr ⟨hrule, legible_singleton hline⟩⟩

theorem legible_contractResolved_of_shows {address : String}
    (h : ∀ piece ∈ addressPieces address, piece.Shows (shown piece)) :
    Legible (contractResolved address) := by
  rw [contractResolved_eq]
  exact legible_singleton (Block.legible_text .running (isLegible_markupOf h))

theorem legible_completed_of_shows {contract : String}
    (h : ∀ piece ∈ completedPieces contract, piece.Shows (shown piece)) :
    Legible (completed contract) := by
  rw [completed_eq]
  have hpanel := (Block.legible_text .running (isLegible_markupOf h)).panel
    (some "  DONE  ".toList) ⟨1, 2⟩
  exact List.forall_mem_cons.mpr ⟨legible_blank,
    List.forall_mem_cons.mpr ⟨hpanel, legible_singleton legible_blank⟩⟩

end

/-! ### Plain reports -/

/-- The banner of plain values is legible. -/
theorem legible_banner {settings : Settings} (hnode : Plain settings.node)
    (hchain : Plain settings.chainId) (hcode : Plain (toString settings.codeId)) :
    Legible (banner settings) := by
  have hsound : ∀ piece ∈ bannerPieces settings, piece.IsSound := by
    have hdim {s : String} (h : Plain s) := sound_styled (by decide : "dim" ∈ styles) h
    have hwhite {s : String} (h : Plain s) := sound_styled (by decide : "white" ∈ styles) h
    simp only [bannerPieces, List.forall_mem_cons, List.not_mem_nil, false_imp_iff, implies_true,
      and_true]
    exact ⟨sound_styled (by decide) (by decide), sound_text (by decide), hdim (by decide),
      sound_text (by decide), hdim (by decide), sound_text (by decide), hwhite hnode,
      sound_text (by decide), hdim (by decide), sound_text (by decide), hwhite hchain,
      sound_text (by decide), hdim (by decide), sound_text (by decide), hwhite hcode⟩
  exact legible_banner_of_shows fun piece hpiece => (hsound piece hpiece).shows

theorem legible_stepStart {name description : String}
    (hname : IsPlain (upperCase name.toList)) (hdescription : Plain description) :
    Legible (stepStart name description) := by
  have htitle : ∀ piece ∈ titlePieces name, piece.IsSound := by
    refine List.forall_mem_singleton.mpr (sound_styled (by decide) ?_)
    rwa [Plain, String.toList_ofList]
  have hline : ∀ piece ∈ descriptionPieces description, piece.IsSound := by
    simp only [descriptionPieces, List.forall_mem_cons, List.not_mem_nil, false_imp_iff,
      implies_true, and_true]
    exact ⟨sound_text (by decide), sound_styled (by decide) hdescription⟩
  exact legible_stepStart_of_shows (fun piece hpiece => (htitle piece hpiece).shows)
    fun piece hpiece => (hline piece hpiece).shows

/-- A command is shown, whatever its arguments are. -/
theorem legible_nodeCall (argv : List String) : Legible (nodeCall argv) := by
  have hdim : IsStyle "dim".toList := isStyle_of_mem (by decide)
  have hpieces : ∀ piece ∈ [Piece.text "  ", .styled "blue" "→", .text " "], piece.IsSound := by
    simp only [List.forall_mem_cons, List.not_mem_nil, false_imp_iff, implies_true, and_true]
    exact ⟨sound_text (by decide), sound_styled (by decide) (by decide), sound_text (by decide)⟩
  exact legible_singleton <| Block.legible_text _ <|
    isLegible_of_escaped hpieces hdim (" ".intercalate argv).toList
      (by simp [Piece.chars, toString, literally])

theorem legible_contractResolved {address : String} (h : Plain address) :
    Legible (contractResolved address) := by
  have hsound : ∀ piece ∈ addressPieces address, piece.IsSound := by
    simp only [addressPieces, List.forall_mem_cons, List.not_mem_nil, false_imp_iff, implies_true,
      and_true]
    exact ⟨sound_text (by decide), sound_styled (by decide) (by decide), sound_text (by decide),
      sound_styled (by decide) h⟩
  exact legible_contractResolved_of_shows fun piece hpiece => (hsound piece hpiece).shows

theorem legible_stepDone {name : String} (h : Plain ("✓ " ++ name)) : Legible (stepDone name) :=
  legible_singleton <| legible_indented (by decide : "bold green" ∈ styles) h
    (by simp [Piece.chars, toString])

theorem legible_waitStart {description : String} (h : Plain ("… " ++ description)) :
    Legible (waitStart description) :=
  legible_singleton <| legible_indented (by decide : "yellow" ∈ styles) h
    (by simp [Piece.chars, toString])

/-- The line about a look is legible; it has only words and numbers. -/
theorem legible_pollStatus {due slotted height : Int} {elapsed : Binary64}
    (h : Plain (s!"↳ {due}/{slotted} slotted task(s) due at height {height} " ++
      s!"after {elapsed.fixed1}s")) :
    Legible (pollStatus due slotted height elapsed) :=
  legible_singleton <| legible_indented (by decide : "dim yellow" ∈ styles) h
    (by simp [Piece.chars, toString])

end Report

end ContractDrill
