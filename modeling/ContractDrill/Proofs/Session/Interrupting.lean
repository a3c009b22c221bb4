import ContractDrill.Proofs.Session.Display

/-!
# Values that interrupt a run

A run that stops in the middle of a report stops over one of its values: one that is put between
tags as it is, and is not literal.  These are values of the settings and the address of the contract
(`Settings.displayed`); all that a run shows besides is constant, a number, or escaped.

The run is taken apart step by step, and each step fails for its markup only over such a value, or
with a log that cannot be shown as a table (`Unmarked`).  The log of a run can always be shown.
-/

namespace ContractDrill

open Markup Report

/-! ### Plain texts -/

namespace Binary64

theorem plain_compact (x : Binary64) : Plain x.compact := by
  have hinfinity : Plain compactLayout.infinityText := by decide
  have hnan : Plain compactLayout.nanText := by decide
  exact NumberLayout.forall_mem_writeWith (fun _ => ne_of_isNumeric) hinfinity hnan _ x

theorem plain_fixed1 (x : Binary64) : Plain x.fixed1 := by
  have hinfinity : Plain plainLayout.infinityText := by decide
  have hnan : Plain plainLayout.nanText := by decide
  exact forall_mem_fixed1 (fun _ => ne_of_isNumeric) hinfinity hnan x

end Binary64

namespace Report

theorem Plain.append {s t : String} (hs : Plain s) (ht : Plain t) : Plain (s ++ t) := by
  unfold Plain
  rw [String.toList_append]
  exact IsPlain.append hs ht

end Report

/-! ### Steps -/

/-- The values of the settings that a run shows as they are: the texts of the banner, and the
descriptions of the steps. -/
def Settings.displayed (settings : Settings) : List String :=
  [settings.node, settings.chainId,
    s!"code {settings.codeId} as {quoted settings.label} from {settings.owner}",
    s!"agent {settings.agent}", s!"agent {settings.agent} executes due tasks"] ++
  settings.stakeAmounts.map fun amount =>
    s!"delegate {settings.coin amount} to {settings.validator}"

namespace Session

/-- The state has a contract that is not literal, or a log that cannot be shown as a table. -/
def Spoilt (state : SessionState) : Prop :=
  (∃ address, state.contract = some address ∧ ¬IsLiteral address.toList) ∨
    ¬∀ step ∈ state.log, ShowsPlain step

/-- The step fails for its markup only in a spoilt state. -/
def Unmarked {α : Type} (x : SessionM α) : Prop :=
  ∀ state, Ends x state (fun _ _ => True) fun failure final =>
    (∃ error, failure = .markup error) → Spoilt final

namespace Unmarked

variable {α β : Type} {session : Session}

theorem bind {x : SessionM α} {f : α → SessionM β} (hx : Unmarked x)
    (hf : ∀ value, Unmarked (f value)) : Unmarked (x >>= f) := by
  intro state
  rw [ends_bind]
  exact (hx state).mono (fun value between _ => hf value between) fun _ _ h => h

theorem pure (value : α) : Unmarked (Pure.pure value) :=
  fun _ => trivial

theorem forM {f : β → SessionM PUnit} {items : List β} (hf : ∀ item ∈ items, Unmarked (f item)) :
    Unmarked (items.forM f) :=
  fun _ => ends_forM (fun item hitem between (_ : True) => hf item hitem between) trivial

/-- A failure of another kind is none of the markup. -/
theorem orFail {ε : Type} {failure : ε → Failure} (result : Except ε α)
    (hfailure : ∀ error wrong, failure error ≠ .markup wrong) :
    Unmarked (orFail failure result) := by
  intro state
  rw [ends_orFail]
  split
  · trivial
  · exact fun ⟨wrong, heq⟩ => absurd heq (hfailure _ wrong)

theorem contract : Unmarked contract := by
  intro state
  rw [ends_contract]
  split
  · trivial
  · exact fun ⟨_, heq⟩ => nomatch heq

/-- A report that is shown to its end. -/
theorem present {report : Report} (h : ∀ width, (report.present width).2 = none) :
    Unmarked (session.present report) :=
  fun _ => (ends_present_of_none (h session.width)).mpr trivial

theorem shown {report : Report} (h : Legible report) : Unmarked (session.present report) :=
  present (snd_present_of_legible h)

/-- A quiet command shows nothing. -/
theorem quietly (command : NodeCommand) : Unmarked (session.quietly command) := by
  intro state
  rw [ends_quietly]
  split
  · trivial
  · rename_i error _
    rintro ⟨wrong, heq⟩
    cases error <;> cases heq

theorem logged (name : String) (command : NodeCommand) : Unmarked (session.logged name command) :=
  fun _ => Ends.logged (fun _ _ _ => trivial) (fun _ _ ⟨_, heq⟩ => nomatch heq)
    fun _ _ ⟨_, heq⟩ => nomatch heq

theorem execute {name : String} (hname : Plain ("✓ " ++ name)) (message : Message)
    (sender : String) (funds : Option String) :
    Unmarked (session.execute name message sender funds) :=
  contract.bind fun _ => (logged _ _).bind fun _ => shown (legible_stepDone hname)

theorem ask (name : String) (message : Message) : Unmarked (session.ask name message) :=
  contract.bind fun _ => (logged _ _).bind fun _ => pure _

/-- The beginning of a step with a description that is shown as it is. -/
theorem stepStart {name description : String} (hname : IsLiteral (upperCase name.toList))
    (hdescription : IsLiteral description.toList) :
    Unmarked (session.present (Report.stepStart name description)) :=
  present ((displays_stepStart_iff name description).mpr ⟨hname, hdescription⟩).ends

/-! ### Waits -/

theorem fetchSchedule : Unmarked session.fetchSchedule := by
  refine (contract.bind fun _ => (quietly _).bind fun _ => pure _).bind fun _ => ?_
  refine (orFail _ fun _ _ => by nofun).bind fun _ => (quietly _).bind fun _ => ?_
  exact (orFail _ fun _ _ => by nofun).bind fun _ => pure _

/-- What is shown of a look is numbers. -/
theorem pollStatus (due slotted height : Int) (elapsed : Binary64) :
    Unmarked (session.present (Report.pollStatus due slotted height elapsed)) := by
  refine shown (legible_pollStatus ?_)
  have hcounts : Plain s!"↳ {due}/{slotted} slotted task(s) due at height {height} " :=
    ((((((by decide : Plain "↳ ").append (plain_toString due)).append (by decide)).append
      (plain_toString slotted)).append (by decide)).append (plain_toString height)).append
        (by decide)
  have helapsed : Plain s!"after {elapsed.fixed1}s" :=
    ((by decide : Plain "after ").append elapsed.plain_fixed1).append (by decide)
  exact hcounts.append helapsed

/-- A wait shows its description, which is plain, and its looks. -/
theorem await (hdescription : Plain ("… " ++ session.wait.description)) :
    Unmarked session.await := by
  refine (shown (legible_waitStart hdescription)).bind fun _ => ?_
  cases session.wait with
  | delay seconds => exact fun _ => trivial
  | polling condition timeout interval =>
    intro state
    unfold Polling.wait
    simp only [ends_bind, ends_get]
    -- Nothing of the state is kept between the looks.
    have hloop : Ends (Polling.poll ⟨condition.holds, timeout, interval⟩ session.surroundings
        state.now (state.script.length + 1)) state (fun _ _ => True) fun failure final =>
          (∃ error, failure = .markup error) → Spoilt final := by
      refine ends_poll_of_present (fun _ _ => True) (fun _ _ => trivial) (fun _ between _ => ?_)
        trivial
      refine (fetchSchedule between).mono (fun schedule looked _ => ?_) fun _ _ h => h
      refine (pollStatus _ _ _ _ looked).mono (fun _ shown _ => ?_) fun _ _ h => h
      split <;> trivial
    refine hloop.mono (fun outcome final _ => ?_) fun _ _ h => h
    cases outcome with
    | none => simp
    | some outcome =>
      cases outcome with
      | met schedule => trivial
      | timedOut elapsed => simp

/-! ### The run -/

/-- The choice of the contract may stop over the address, but over nothing else. -/
theorem resolveAddress : Unmarked session.resolveAddress := by
  have hdescription : Plain s!"latest contract for code {session.settings.codeId}" :=
    (by decide : Plain "latest contract for code ").append (plain_toString _)
  refine (shown (legible_stepStart (by decide +kernel) hdescription)).bind fun _ => ?_
  refine (logged _ _).bind fun _ => (orFail _ fun _ _ => by nofun).bind fun address state => ?_
  -- The address is the contract by the time it is shown.
  change Ends (session.present (Report.contractResolved address) >>= fun _ => Pure.pure address)
    (state.resolving address) _ _
  rw [ends_bind]
  by_cases haddress : IsLiteral address.toList
  · have hdisplays := (displays_contractResolved_iff address).mpr haddress
    exact (present hdisplays.ends (state.resolving address)).mono (fun _ _ _ => trivial)
      fun _ _ h => h
  · exact Ends.present (fun _ => trivial) fun _ _ _ => .inl ⟨address, rfl, haddress⟩

/-- The end of a run shows the contract. -/
theorem completed {f : Unit → SessionM α} (hf : ∀ value, Unmarked (f value)) :
    Unmarked (Session.contract >>= fun address =>
      session.present (Report.completed address) >>= f) := by
  intro state
  rw [ends_bind, ends_contract]
  cases hcontract : state.contract with
  | none => exact fun ⟨_, heq⟩ => nomatch heq
  | some address =>
    dsimp only
    by_cases haddress : IsLiteral address.toList
    · have hdisplays := (displays_completed_iff address).mpr haddress
      exact (present hdisplays.ends).bind hf state
    · rw [ends_bind]
      exact Ends.present (fun _ => hf _ _) fun _ _ _ => .inl ⟨address, hcontract, haddress⟩

theorem summary {f : Unit → SessionM α} (hf : ∀ value, Unmarked (f value)) :
    Unmarked (get >>= fun state : SessionState =>
      session.present (Report.summary state.log) >>= f) := by
  intro state
  rw [ends_bind, ends_get]
  by_cases hlog : ∀ step ∈ state.log, ShowsPlain step
  · exact (shown (legible_summary hlog)).bind hf state
  · rw [ends_bind]
    exact Ends.present (fun _ => hf _ _) fun _ _ _ => .inr hlog

section

variable (hliteral : ∀ value ∈ session.settings.displayed, IsLiteral value.toList)
include hliteral

theorem banner : Unmarked (session.present (Report.banner session.settings)) :=
  present ((displays_banner_iff _).mpr
    ⟨hliteral _ (by simp [Settings.displayed]), hliteral _ (by simp [Settings.displayed])⟩).ends

theorem instantiate : Unmarked session.instantiate :=
  (stepStart (.of_all (by decide +kernel)) (hliteral _ (by simp [Settings.displayed]))).bind
    fun _ => (logged _ _).bind fun _ => pure _

/-- The registration shows the agent, one of the values that are displayed. -/
theorem registerAgent : Unmarked session.registerAgent :=
  (stepStart (.of_all (by decide +kernel)) (hliteral _ (by simp [Settings.displayed]))).bind
    fun _ => execute (by decide) _ _ _

/-- A task is shown as its amount and the validator, which are displayed together. -/
theorem createTask {amount : Int} (hamount : amount ∈ session.settings.stakeAmounts) :
    Unmarked (session.createTask amount) := by
  have hmem : s!"delegate {session.settings.coin amount} to {session.settings.validator}" ∈
      session.settings.displayed :=
    List.mem_append_right _ (List.mem_map_of_mem hamount)
  exact (stepStart (.of_all (by decide +kernel)) (hliteral _ hmem)).bind
    fun _ => execute (by decide) _ _ _

theorem proxyCall : Unmarked session.proxyCall :=
  (stepStart (.of_all (by decide +kernel)) (hliteral _ (by simp [Settings.displayed]))).bind
    fun _ => execute (by decide) _ _ _

theorem round (hdescription : Plain ("… " ++ session.wait.description)) :
    Unmarked session.round := by
  have hquestion : Unmarked session.queryTasks :=
    (shown (legible_stepStart (by decide +kernel) (by decide +kernel))).bind fun _ => ask _ _
  exact hquestion.bind fun _ => (await hdescription).bind fun _ => proxyCall hliteral

/-- A run is unmarked if the description of its wait is plain. -/
theorem run (hdescription : Plain ("… " ++ session.wait.description)) : Unmarked session.run := by
  refine (banner hliteral).bind fun _ => (instantiate hliteral).bind fun _ => ?_
  refine resolveAddress.bind fun _ => (registerAgent hliteral).bind fun _ => ?_
  refine (forM fun _ hamount => createTask hliteral hamount).bind fun _ => ?_
  refine (forM fun _ _ => round hliteral hdescription).bind fun _ => ?_
  exact summary fun _ => completed fun _ => contract

end

end Unmarked

/-! ### The law -/

/-- The usual wait of settings is described by words and numbers. -/
theorem plain_description_ofSettings (settings : Settings) (width : Nat) :
    Plain ("… " ++ (Session.ofSettings settings width).wait.description) := by
  refine Plain.append (by decide) ?_
  unfold Session.ofSettings Wait.ofSettings
  dsimp only
  split
  · have hname : Plain (Condition.dueAtLeast 1).name := by decide +kernel
    exact ((((by decide : Plain "polling slot hashes for ").append hname).append
      (by decide)).append (Binary64.plain_compact _)).append (by decide)
  · exact ((by decide : Plain "sleeping ").append (Binary64.plain_compact _)).append (by decide)

/-- A run that fails for its markup has a value that is not literal. -/
theorem exists_not_isLiteral_of_run {settings : Settings} {width : Nat} {script : List TimedReply}
    {now : Binary64} {error : Markup.Error} {final : SessionState}
    (h : (Session.ofSettings settings width).run.run (.initial script now) =
      (.error (.markup error), final)) :
    ∃ value ∈ settings.displayed ++ final.contract.toList, ¬IsLiteral value.toList := by
  by_contra hnone
  push Not at hnone
  obtain ⟨hsettings, hcontract⟩ := List.forall_mem_append.mp hnone
  have hunmarked : Unmarked (Session.ofSettings settings width).run :=
    Unmarked.run hsettings (plain_description_ofSettings settings width)
  rcases (hunmarked _).of_eq_error h ⟨error, rfl⟩ with ⟨address, haddress, hliteral⟩ | hlog
  · exact hliteral (hcontract address (by simp [haddress]))
  · exact hlog ((Session.ends_run_showsPlain _ script now).of_eq_error h)

/-- A run from an environment stops for markup only over a value that is not literal. -/
theorem ends_ofEnvironment_markup {environment : String → Option String} {settings : Settings}
    (h : Settings.ofEnvironment environment = .valid settings) (width : Nat)
    (script : List TimedReply) (now : Binary64) :
    Ends (Run.ofEnvironment environment width) (.initial script now) (fun _ _ => True)
      fun failure final => (∃ error, failure = .markup error) →
        ∃ value ∈ settings.displayed ++ final.contract.toList, ¬IsLiteral value.toList := by
  unfold Run.ofEnvironment
  rw [h]
  dsimp only
  cases hx : (Session.ofSettings settings width).run.run (.initial script now) with
  | mk result final =>
    cases result with
    | ok address => exact (ends_reportedRun_of_ok hx).mpr trivial
    | error failure =>
      -- A failure that is reported is shown, with the log and the reason, and both can be.
      cases hreported : failure.isReported with
      | true =>
        have hlog := (Session.ends_run_showsPlain _ script now).of_eq_error hx
        rw [ends_reportedRun_of_error hx hreported, ends_bind]
        exact Ends.shown (legible_summary hlog) fun _ =>
          Ends.shown (legible_halt _ _) fun _ => trivial
      | false =>
        rw [ends_reportedRun_of_not_isReported hx hreported]
        rintro ⟨error, rfl⟩
        exact exists_not_isLiteral_of_run hx

/-- A banner with markup that cannot be read is not shown, where there is room for it. -/
theorem present_banner_of_read {settings : Settings} {error : Markup.Error}
    (h : read (markupOf (bannerPieces settings)).toList = .error error) {width : Nat}
    (hwidth : 10 < width) : ((Report.banner settings).present width).2 = some error := by
  have hrows : (Block.panel none ⟨1, 4⟩
      (.text .running (markupOf (bannerPieces settings)))).rows width = .error error := by
    have hpanel : ¬width - 2 = 0 := by omega
    simp [Block.panel, Block.padded, Block.measure, Block.text, h, hpanel, Nat.not_le.mpr hwidth,
      Except.map, bind, Except.bind]
  rw [banner_eq]
  simp [Report.present, blank, hrows]

/-- Such a banner interrupts the run before its first command. -/
theorem ends_run_of_banner {session : Session} {state : SessionState} {error : Markup.Error}
    (h : ((Report.banner session.settings).present session.width).2 = some error) :
    Ends session.run state (fun _ _ => False)
      fun failure final => failure = .markup error ∧ final.exchanges = state.exchanges := by
  unfold run
  rw [ends_bind, ends_present]
  split
  · rename_i heq
    rw [heq] at h
    cases h
  · rename_i heq
    rw [heq] at h
    cases h
    exact ⟨rfl, rfl⟩

/-- Where the banner cannot be read, the run ends before any command. -/
theorem ends_ofEnvironment_of_banner {environment : String → Option String} {settings : Settings}
    (h : Settings.ofEnvironment environment = .valid settings) {error : Markup.Error}
    (hread : read (markupOf (bannerPieces settings)).toList = .error error) {width : Nat}
    (hwidth : 10 < width) (script : List TimedReply) (now : Binary64) :
    Ends (Run.ofEnvironment environment width) (.initial script now) (fun _ _ => False)
      fun failure final => failure = .markup error ∧ final.exchanges = [] := by
  have hrun : Ends (Session.ofSettings settings width).run (.initial script now)
      (fun _ _ => False)
      fun failure final => failure = .markup error ∧ final.exchanges = [] :=
    ends_run_of_banner (present_banner_of_read hread hwidth)
  obtain ⟨_, final, hfailed, rfl, hexchanges⟩ := hrun.exists_eq_error
  unfold Run.ofEnvironment
  rw [h]
  dsimp only
  rw [ends_reportedRun_of_not_isReported hfailed rfl]
  exact ⟨rfl, hexchanges⟩

end Session

/-- What the reports show of their values, and what it means for a run if they do not. -/
structure DisplayLaw (settings : Settings) (name description address : String) : Prop where
  banner :
    Report.banner settings =
      [blank, .panel none ⟨1, 4⟩ (.text .running (markupOf (bannerPieces settings)))] ∧
    (Displays (Report.banner settings) [bannerPieces settings] ↔
      IsLiteral settings.node.toList ∧ IsLiteral settings.chainId.toList)
  stepStart :
    Report.stepStart name description =
      [blank, .rule (markupOf (titlePieces name)),
        line (markupOf (descriptionPieces description))] ∧
    (Displays (Report.stepStart name description)
        [titlePieces name, descriptionPieces description] ↔
      IsLiteral (upperCase name.toList) ∧ IsLiteral description.toList)
  contractResolved :
    Report.contractResolved address = [line (markupOf (addressPieces address))] ∧
    (Displays (Report.contractResolved address) [addressPieces address] ↔
      IsLiteral address.toList)
  /-- A run that stops for its markup stops over a value that is not literal. -/
  run : ∀ environment, Settings.ofEnvironment environment = .valid settings →
    ∀ width script now error final,
      (Run.ofEnvironment environment width).run (.initial script now) =
        (.error (.markup error), final) →
      ∃ value ∈ settings.displayed ++ final.contract.toList, ¬IsLiteral value.toList
  /-- Settings of which the banner cannot be read interrupt each run before its first command. -/
  interrupted : ∀ environment, Settings.ofEnvironment environment = .valid settings →
    ∀ error, read (markupOf (bannerPieces settings)).toList = .error error →
    ∀ width, 10 < width → ∀ script now,
      Session.Ends (Run.ofEnvironment environment width) (.initial script now) (fun _ _ => False)
        fun failure final => failure = .markup error ∧ final.exchanges = []

/-- **Values in reports.**  Each of the reports shows the values between its tags as they are just
if they are literal, only a value that is not can interrupt a run, and a run with settings of which
the banner cannot be read is interrupted at once. -/
theorem displayLaw (settings : Settings) (name description address : String) :
    DisplayLaw settings name description address where
  banner := ⟨banner_eq settings, displays_banner_iff settings⟩
  stepStart := ⟨stepStart_eq name description, displays_stepStart_iff name description⟩
  contractResolved := ⟨contractResolved_eq address, displays_contractResolved_iff address⟩
  run _ hvalid width script now error _ h :=
    (Session.ends_ofEnvironment_markup hvalid width script now).of_eq_error h ⟨error, rfl⟩
  interrupted _ hvalid _ hread _ hwidth script now :=
    Session.ends_ofEnvironment_of_banner hvalid hread hwidth script now

/-- A closing tag as the address of the node is enough for that. -/
example : (read ((bannerPieces
    { Settings.default with node := "[/]" }).flatMap Piece.chars)).toOption = none := by
  simp only [bannerPieces, Piece.chars, List.flatMap_cons, List.flatMap_nil, Settings.default,
    String.reduceToList]
  decide +kernel

/-! ### Nodes that are no literal texts -/

/-- The environment that only sets the node. -/
def reachedAt (node : String) (name : String) : Option String :=
  if name = "CRONCAT_NODE" then some node else none

/-- The settings for a node are the usual ones but for the node. -/
theorem ofEnvironment_reachedAt {node : String} (h : allBlank node = false) :
    Settings.ofEnvironment (reachedAt node) = .valid { Settings.default with node := node } := by
  have hoverrides : Settings.overrides (reachedAt node) = [("node", .string node)] := by
    simp [Settings.overrides, Settings.environmentVariables, reachedAt, Settings.override?, h]
  have hfield : Schema.text (.string node) = .valid node := rfl
  unfold Settings.ofEnvironment
  rw [hoverrides]
  simp [Settings.ofJson, Schema.record, Schema.optional, Json.Members.get?, List.lookup_cons,
    hfield]

/-- Settings may be accepted of which the banner does not show the node. -/
theorem not_forall_displays :
    ¬ ∀ environment settings, Settings.ofEnvironment environment = .valid settings →
      (∀ width, ((Report.banner settings).present width).2 = none) ∧
      ∃ styled, read (markupOf (bannerPieces settings)).toList = .ok styled ∧
        settings.node.toList <:+: styled.text ∧ settings.chainId.toList <:+: styled.text := by
  intro hdisplays
  have hsettings := ofEnvironment_reachedAt (by decide : allBlank "http://[fe80::1]:26657" = false)
  obtain ⟨-, styled, hread, hnode, -⟩ := hdisplays _ _ hsettings
  -- The address of the node is in brackets, which are taken for a tag.
  have hlost : (read ((bannerPieces
      { Settings.default with node := "http://[fe80::1]:26657" }).flatMap
        Piece.chars)).toOption.all
        (fun styled => ¬"http://[fe80::1]:26657".toList <:+: styled.text) = true := by
    simp only [bannerPieces, Piece.chars, List.flatMap_cons, List.flatMap_nil, Settings.default,
      String.reduceToList]
    decide +kernel
  rw [markupOf, String.toList_ofList] at hread
  rw [hread] at hlost
  exact of_decide_eq_true hlost hnode

end ContractDrill
