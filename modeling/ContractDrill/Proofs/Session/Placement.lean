import ContractDrill.Proofs.Answer.Status
import ContractDrill.Proofs.Session.Progress

/-!
# Where a node prints its status

A look at the schedule takes two replies, the slots and the status (`Session.run_fetchSchedule`).
Whatever the slots are, the look comes to the same end for every reply that describes the latest
block alike: under either name, on either channel, with any gaps (`Session.look_placement`).
Members beside the description change nothing as long as the reader gets through them.  One that is
nested too deeply stops it, although the description is there (`Session.not_forall_look_beside`).
-/

namespace ContractDrill

/-! ### Kinds of failures -/

/-- What a caller can tell failures apart by. -/
inductive FailureKind where
  /-- A command failed. -/
  | command
  /-- A program may not be run. -/
  | denied
  /-- There is no contract, or an answer of the node is rejected. -/
  | rejected
  /-- No contract address is taken from a listing. -/
  | address
  /-- A wait took too long. -/
  | timedOut
  /-- A value is out of its range. -/
  | value
  /-- An answer is nested too deeply. -/
  | nesting
  /-- A number is infinite. -/
  | overflow
  /-- An answer has no text. -/
  | noText
  /-- A status has no text. -/
  | noStatus
  /-- A text is no markup. -/
  | markup
  /-- A wait is not over. -/
  | unending
  deriving DecidableEq

/-- The kind of an error of a payload. -/
def Payload.Error.failureKind : Payload.Error → FailureKind
  | unreadable (.malformed ..) | invalid _ => .rejected
  | unreadable (.digits _) => .value
  | unreadable (.depth _) => .nesting
  | noText => .noText

/-- The kind of an error of a status. -/
def ChainHead.Error.failureKind : ChainHead.Error → FailureKind
  | unreadable (.depth _) => .nesting
  | heightInfinite => .overflow
  | noStatus => .noStatus
  | _ => .rejected

/-- The kind of a failure. -/
def Failure.kind : Failure → FailureKind
  | command _ => .command
  | denied _ => .denied
  | unresolved => .rejected
  | address _ => .address
  | tasks error | slots error => error.failureKind
  | head error => error.failureKind
  | timedOut .. => .timedOut
  | markup (.level _) => .value
  | markup _ => .markup
  | unending => .unending

/-- All errors that are reported are of one kind. -/
theorem ChainHead.Error.failureKind_of_isReported {error : ChainHead.Error}
    (h : error.isReported = true) : error.failureKind = .rejected := by
  unfold isReported at h
  split at h
  · cases h
  · cases h
  · cases h
  · unfold failureKind
    split <;> simp_all

/-- The same value, or failures of the same kind. -/
def SameOutcome {α : Type} (result result' : Except Failure α) : Prop :=
  result.mapError Failure.kind = result'.mapError Failure.kind

namespace SameOutcome

variable {α β : Type} {result result' : Except Failure α}

theorem of_eq (h : result = result') : SameOutcome result result' :=
  congrArg (Except.mapError Failure.kind) h

/-- What is made of a value does not part two outcomes. -/
theorem map (h : SameOutcome result result') (f : α → β) :
    SameOutcome (f <$> result) (f <$> result') := by
  unfold SameOutcome at h ⊢
  cases result with
  | ok value =>
    cases result' with
    | ok value' =>
      obtain rfl := Except.ok.inj h
      rfl
    | error failure' => cases h
  | error failure =>
    cases result' with
    | ok value' => cases h
    | error failure' => exact congrArg Except.error (Except.error.inj h)

end SameOutcome

/-- Readings that agree make failures of the same kind. -/
theorem ChainHead.Agree.sameOutcome {result result' : Except ChainHead.Error ChainHead}
    (h : ChainHead.Agree result result') :
    SameOutcome (result.mapError .head) (result'.mapError .head) := by
  rcases h with rfl | ⟨⟨error, rfl, hreported⟩, error', rfl, hreported'⟩
  · exact .of_eq rfl
  · refine congrArg Except.error ?_
    exact (Error.failureKind_of_isReported hreported).trans
      (Error.failureKind_of_isReported hreported').symm

namespace Session

/-! ### A look -/

/-- The slots that the contract answers with. -/
def slotsOf (session : Session) (contract : Option String) (reply : Reply) :
    Except Failure SlotHashes := do
  let address ← contract.elim (.error .unresolved) .ok
  let answer ← (reply.result ((slotsQuery address).argv session.settings)).mapError replyFailure
  (Payload.readCaptured SlotHashes.read answer.output).mapError .slots

/-- The chain head that the node reports. -/
def headOf (session : Session) (reply : Reply) : Except Failure ChainHead := do
  let status ← (reply.result (NodeCommand.status.argv session.settings)).mapError replyFailure
  (ChainHead.readStatus status.output status.errors).mapError .head

/-- The end of a look to which the node replies with the slots and the status. -/
def look (session : Session) (state : SessionState) (slots status : TimedReply) :
    Except Failure SlotSchedule :=
  (session.fetchSchedule.run { state with script := slots :: status :: state.script }).1

/-- How a step ends says what it yields, if the end leaves only one result. -/
theorem fst_run_eq_of_ends {α : Type} {x : SessionM α} {state : SessionState}
    {result : Except Failure α} (h : Ends x state (fun value _ => .ok value = result)
      fun failure _ => .error failure = result) : (x.run state).1 = result := by
  unfold Ends at h
  split at h
  · rename_i value final hrun
    rw [hrun]
    exact h
  · rename_i failure final hrun
    rw [hrun]
    exact h

/-- A look takes the slots from one reply and the head from the next. -/
theorem look_eq (session : Session) (state : SessionState) (slots status : TimedReply) :
    session.look state slots status =
      session.slotsOf state.contract slots.reply >>= fun found =>
        found.against <$> session.headOf status.reply := by
  refine fst_run_eq_of_ends ?_
  rw [ends_fetchSchedule]
  unfold slotsOf headOf
  cases state.contract with
  | none => rfl
  | some address =>
    dsimp only
    rw [ends_quietly]
    cases hanswer : slots.reply.result ((slotsQuery address).argv session.settings) with
    | error error =>
      simp [SessionState.reply, hanswer, bind, Except.bind, Except.mapError]
    | ok answer =>
      cases hslots : Payload.readCaptured SlotHashes.read answer.output with
      | error error =>
        simp [SessionState.reply, hanswer, hslots, bind, Except.bind, Except.mapError]
      | ok found =>
        -- The second reply is the next one of the script.
        cases hprinted : status.reply.result (NodeCommand.status.argv session.settings) with
        | error error =>
          simp [ends_quietly, SessionState.reply, SessionState.issued, hanswer, hslots, hprinted,
            bind, Except.bind, Except.mapError]
        | ok printed =>
          cases hhead : ChainHead.readStatus printed.output printed.errors <;>
            simp [ends_quietly, SessionState.reply, SessionState.issued, hanswer, hslots, hprinted,
              hhead, bind, Except.bind, Except.mapError]

/-- Whatever the slots are, looks with the same head come to the same end. -/
theorem sameOutcome_look {session : Session} {state : SessionState}
    {slots status status' : TimedReply}
    (h : SameOutcome (session.headOf status.reply) (session.headOf status'.reply)) :
    SameOutcome (session.look state slots status) (session.look state slots status') := by
  rw [look_eq, look_eq]
  cases session.slotsOf state.contract slots.reply with
  | error failure => exact .of_eq rfl
  | ok found => exact h.map found.against

/-! ### Replies that report a status -/

/-- The node ends with the exit code and tells the status. -/
def Reports (exitCode : Int) (status : Json) (reply : TimedReply) : Prop :=
  ∃ output errors, reply.reply = .finished exitCode output errors ∧
    ChainHead.Tells status output errors

section

variable {session : Session} {members members' : Json.Members} {reply reply' : TimedReply}

/-- The head is read from what was reported, on either channel. -/
theorem headOf_of_reports (h : Reports 0 (.object members) reply) :
    session.headOf reply.reply = (ChainHead.reading (.object members)).mapError .head := by
  obtain ⟨output, errors, hreply, htells⟩ := h
  unfold headOf
  rw [hreply]
  show (ChainHead.readStatus output errors).mapError Failure.head = _
  rw [ChainHead.readStatus_of_tells htells]

/-- A command that fails does so in one way, whatever it prints. -/
theorem sameOutcome_headOf_of_ne {exitCode : Int} (hcode : exitCode ≠ 0) {status status' : Json}
    (h : Reports exitCode status reply) (h' : Reports exitCode status' reply') :
    SameOutcome (session.headOf reply.reply) (session.headOf reply'.reply) := by
  obtain ⟨output, errors, hreply, -⟩ := h
  obtain ⟨output', errors', hreply', -⟩ := h'
  unfold headOf Reply.result
  rw [hreply, hreply']
  dsimp only
  rw [if_neg hcode, if_neg hcode]
  rfl

end

/-- **The placement of a status.**  However the slots are answered, and whatever describes the
latest block, a look comes to the same schedule, or fails in the same way, for every reply that
reports the description alone: under either name, on either channel.  Other members beside the
second name, and under the first name what counts as absent, change nothing, as long as the reader
gets through them; unless the command fails, which keeps its output, the look comes to the very same
end. -/
theorem look_placement (session : Session) (state : SessionState) (slots : TimedReply)
    (info : Json) (exitCode : Int) :
    (∀ name ∈ ChainHead.infoNames, ∀ name' ∈ ChainHead.infoNames, ∀ reply reply',
      Reports exitCode (.object [(name, info)]) reply →
      Reports exitCode (.object [(name', info)]) reply' →
      SameOutcome (session.look state slots reply) (session.look state slots reply')) ∧
    ∀ members, ChainHead.IsBeside info members → ChainHead.ReadableBeside members →
      ∀ reply reply', Reports exitCode (.object members) reply →
      Reports exitCode (.object [("sync_info", info)]) reply' →
      SameOutcome (session.look state slots reply) (session.look state slots reply') ∧
      (exitCode = 0 → session.look state slots reply = session.look state slots reply') := by
  constructor
  · intro name hname name' hname' reply reply' hreports hreports'
    refine sameOutcome_look ?_
    -- A code other than 0 fails the look before its outputs are read.
    by_cases hcode : exitCode = 0
    · subst hcode
      rw [headOf_of_reports hreports, headOf_of_reports hreports']
      exact (ChainHead.agree_of_names hname hname' info).sameOutcome
    · exact sameOutcome_headOf_of_ne hcode hreports hreports'
  · intro members hbeside hreadable reply reply' hreports hreports'
    by_cases hcode : exitCode = 0
    · subst hcode
      have hlook : session.look state slots reply = session.look state slots reply' := by
        rw [look_eq, look_eq, headOf_of_reports hreports, headOf_of_reports hreports',
          ChainHead.reading_of_isBeside hbeside hreadable,
          ChainHead.reading_of_isBeside (ChainHead.isBeside_singleton info)
            (ChainHead.readableBeside_singleton info)]
      exact ⟨.of_eq hlook, fun _ => hlook⟩
    · exact ⟨sameOutcome_look (sameOutcome_headOf_of_ne hcode hreports hreports'),
        fun h => absurd h hcode⟩

/-! ### A block and its placements -/

/-- The description of a block. -/
def twelfthBlock : Json :=
  .object [("latest_block_height", .string "12"),
    ("latest_block_time", .string "2022-05-01T10:00:00Z")]

/-- A session that has found its contract. -/
def resolvedState : SessionState :=
  { SessionState.initial [] 0 with contract := some "juno1" }

/-- The schedule without slots at that block. -/
def twelfthSchedule : SlotSchedule :=
  ⟨0, [], 0, [], 12, 1651399200000000000⟩

/-- The answer of a contract without slots. -/
def noSlots : TimedReply :=
  printing "[0,[],0,[]]"

theorem slotsOf_noSlots :
    sample.slotsOf resolvedState.contract noSlots.reply = .ok ⟨0, [], 0, []⟩ := by
  have hread : Payload.readCaptured SlotHashes.read (some "[0,[],0,[]]") = .ok ⟨0, [], 0, []⟩ :=
    eq_ok_of_toOption (by decide +kernel)
  show (Payload.readCaptured SlotHashes.read (some "[0,[],0,[]]")).mapError Failure.slots = _
  rw [hread]
  rfl

theorem fits_twelfthBlock : Json.Fits .usual ChainHead.insideDepth twelfthBlock := by
  have hfits : Json.Fits .usual 1 twelfthBlock := by simp [twelfthBlock]
  exact hfits.mono (by decide)

/-- A look at the twelfth block without slots finds nothing due. -/
theorem look_twelfthBlock {reply : TimedReply}
    (hreports : Reports 0 (.object [("sync_info", twelfthBlock)]) reply) :
    sample.look resolvedState noSlots reply = .ok twelfthSchedule := by
  have hinfo : ChainHead.ofInfo twelfthBlock = .ok ⟨12, 1651399200000000000⟩ :=
    eq_ok_of_toOption (by decide +kernel)
  have hhead : sample.headOf reply.reply = .ok ⟨12, 1651399200000000000⟩ := by
    rw [headOf_of_reports hreports,
      ChainHead.reading_of_isBeside (ChainHead.isBeside_singleton twelfthBlock)
        (ChainHead.readableBeside_singleton twelfthBlock), Json.reread_of_fits fits_twelfthBlock]
    show (ChainHead.ofInfo twelfthBlock).mapError Failure.head = _
    rw [hinfo]
    rfl
  rw [look_eq, hhead, slotsOf_noSlots]
  rfl

/-- A status with that block under the first name, among gaps. -/
def firstReply : TimedReply :=
  printing ("\n" ++ (Json.object [("SyncInfo", twelfthBlock)]).encode ++ " ")

/-- A status with it under the second name, printed where errors go. -/
def secondReply : TimedReply :=
  ⟨.ofInt 3, .finished 0 (some "\x1c\n")
    (some (Json.object [("sync_info", twelfthBlock)]).encodeSpaced)⟩

/-- Members with nothing but an empty object under the first name, and with another name. -/
def crowdedMembers : Json.Members :=
  [("SyncInfo", .object []), ("node_info", .array [.integer 7]), ("sync_info", twelfthBlock)]

theorem reports_secondReply : Reports 0 (.object [("sync_info", twelfthBlock)]) secondReply :=
  ⟨_, _, rfl, _, Json.isTextOf_encodeSpaced _, .inr ⟨rfl, _, rfl, by decide⟩⟩

/-- The other members leave the description in place. -/
theorem isBeside_crowdedMembers : ChainHead.IsBeside twelfthBlock crowdedMembers where
  names := by simp [crowdedMembers]
  info_eq := rfl
  absent first hfirst := by
    obtain rfl := Option.some.inj hfirst
    rfl

theorem readableBeside_crowdedMembers : ChainHead.ReadableBeside crowdedMembers := by
  have hfits : Json.Fits .usual ChainHead.insideDepth (.array [.integer 7]) :=
    .array (List.forall_mem_singleton.mpr (.integer (by decide)))
  simp only [ChainHead.ReadableBeside, crowdedMembers, List.forall_mem_cons, List.not_mem_nil,
    false_imp_iff, implies_true, and_true]
  refine ⟨fun hname => absurd (by simp) hname, fun _ => ⟨_, Json.reread_of_fits hfits⟩,
    fun hname => absurd (by simp) hname⟩

/-- The three replies give the schedule of the block. -/
theorem look_twelfthBlock_placement :
    Reports 0 (.object [("SyncInfo", twelfthBlock)]) firstReply ∧
      Reports 0 (.object [("sync_info", twelfthBlock)]) secondReply ∧
      ChainHead.IsBeside twelfthBlock crowdedMembers ∧
      ChainHead.ReadableBeside crowdedMembers ∧
      Reports 0 (.object crowdedMembers) (printing (Json.object crowdedMembers).encode) ∧
      SameOutcome (sample.look resolvedState noSlots firstReply) (.ok twelfthSchedule) ∧
      sample.look resolvedState noSlots secondReply = .ok twelfthSchedule ∧
      sample.look resolvedState noSlots (printing (Json.object crowdedMembers).encode) =
        .ok twelfthSchedule := by
  have hfirst : Reports 0 (.object [("SyncInfo", twelfthBlock)]) firstReply := by
    refine ⟨_, _, rfl, _, ⟨⟨[], []⟩, ['\n'], [' '], ⟨?_, ?_⟩, ?_, ?_, ?_⟩, .inl rfl⟩
    · simp [Json.AllGaps]
    · simp [Json.AllGaps]
    · simp [Json.AllGaps, Json.isGap]
    · simp [Json.AllGaps, Json.isGap]
    · simp [Json.encode]
  have hcrowded : Reports 0 (.object crowdedMembers)
      (printing (Json.object crowdedMembers).encode) :=
    ⟨_, _, rfl, _, Json.isTextOf_encode _, .inl rfl⟩
  have hsecond := look_twelfthBlock reports_secondReply
  obtain ⟨hnames, hmembers⟩ := look_placement sample resolvedState noSlots twelfthBlock 0
  refine ⟨hfirst, reports_secondReply, isBeside_crowdedMembers, readableBeside_crowdedMembers,
    hcrowded, ?_, hsecond, ?_⟩
  · rw [← hsecond]
    exact hnames _ (by decide) _ (by decide) _ _ hfirst reports_secondReply
  · rw [← hsecond]
    exact (hmembers _ isBeside_crowdedMembers readableBeside_crowdedMembers _ _ hcrowded
      reports_secondReply).2 rfl

/-! ### A description that is not reached -/

/-- Arrays inside of an array, one in the other. -/
def nested : Nat → Json
  | 0 => .array []
  | count + 1 => .array [nested count]

/-- A reader does not get through too many arrays. -/
theorem reread_nested {depth count : Nat} (h : depth ≤ count) :
    Json.reread .usual depth (nested count) = .error (.depth .array) := by
  induction depth generalizing count with
  | zero => cases count <;> rfl
  | succ depth ih =>
    cases count with
    | zero => exact absurd h (Nat.not_succ_le_zero depth)
    | succ count =>
      rw [nested, Json.reread, List.mapM_cons, ih (Nat.le_of_succ_le_succ h)]
      rfl

/-- A description of a block, and a member that is nested too deeply. -/
def deepMembers : Json.Members :=
  [("sync_info", twelfthBlock), ("other", nested 2999)]

theorem isBeside_deepMembers : ChainHead.IsBeside twelfthBlock deepMembers where
  names := by simp [deepMembers]
  info_eq := rfl
  absent first hfirst := by simp [deepMembers, List.lookup_cons] at hfirst

/-- The description alone does not decide: another member can be nested too deeply to be read. -/
theorem not_forall_look_beside :
    ¬∀ (session : Session) (state : SessionState) (slots : TimedReply) (info : Json)
      (members : Json.Members), ChainHead.IsBeside info members → ∀ reply reply',
      Reports 0 (.object members) reply → Reports 0 (.object [("sync_info", info)]) reply' →
      SameOutcome (session.look state slots reply) (session.look state slots reply') := by
  intro h
  have hdeep : Reports 0 (.object deepMembers) (printing (Json.object deepMembers).encode) :=
    ⟨_, _, rfl, _, Json.isTextOf_encode _, .inl rfl⟩
  have hsame := h sample resolvedState noSlots twelfthBlock deepMembers isBeside_deepMembers _ _
    hdeep reports_secondReply
  have hstop : Json.reread .usual ChainHead.insideDepth (nested 2999) = .error (.depth .array) :=
    reread_nested (by decide)
  -- All members are read before any is looked up, so the deep one stops the reader.
  have hreading : ChainHead.reading (.object deepMembers) =
      .error (ChainHead.unread (.depth .array)) := by
    have hnames : (deepMembers.map Prod.fst).Nodup := isBeside_deepMembers.names
    have hother : deepMembers.lookup "other" = some (nested 2999) := rfl
    have hrest : ∀ member ∈ deepMembers, member.1 ≠ "other" →
        Json.IsReadable ChainHead.insideDepth member.2 := by
      simp only [deepMembers, List.forall_mem_cons, List.not_mem_nil, false_imp_iff,
        implies_true, and_true]
      exact ⟨fun _ => ⟨_, Json.reread_of_fits fits_twelfthBlock⟩, fun hname => absurd rfl hname⟩
    show (Json.reread .usual (ChainHead.insideDepth + 1) _).mapError ChainHead.unread >>= _ = _
    rw [Json.reread_object_of_error hnames hother hstop hrest]
    rfl
  have hlook : sample.look resolvedState noSlots (printing (Json.object deepMembers).encode) =
      .error (.head (ChainHead.unread (.depth .array))) := by
    rw [look_eq, headOf_of_reports hdeep, hreading, slotsOf_noSlots]
    rfl
  rw [hlook, look_twelfthBlock reports_secondReply] at hsame
  cases hsame

end Session

end ContractDrill
