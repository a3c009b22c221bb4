import ContractDrill.Proofs.Message.Wording
import ContractDrill.Proofs.Schema.Fitting
import ContractDrill.Proofs.Task.RoundTrip

/-!
# What is requested can be sent

A request needs no more room in the message that creates it than it took where it was read, apart
from the two brackets around it (`fits_createTask`).  So every request that was read from a value
with two brackets to spare is written (`write_of_source`), and understood by whoever decodes the
message (`exists_request_of_source`).
-/

namespace ContractDrill

open Schema

/-! ### Tasks -/

theorem writesWithin_interval : WritesWithin Interval.ofJson Interval.toJson := by
  intro depth value interval hfits hread
  cases value with
  | string name =>
    obtain rfl := Verdict.valid.inj hread
    exact hfits
  | object members =>
    obtain rfl := Verdict.valid.inj hread
    exact hfits
  | _ => cases hread

theorem writesWithin_action : WritesWithin Action.ofJson (Action.toJson .omitted) := by
  intro depth value action hfits hread
  cases hfits with
  | object hnames hmembers =>
    rw [Action.ofJson, record, Verdict.seq_eq_valid_iff] at hread
    obtain ⟨make, gasLimit, hmake, hgas, rfl⟩ := hread
    rw [Verdict.map_eq_valid_iff] at hmake
    obtain ⟨message, hmessage, rfl⟩ := hmake
    have hmessage' := writesWithin_freeForm.required hmembers hmessage
    have hgas' := writesWithin_integer.nullable.optional hmembers .null hgas
    have hnodup : ["msg", "gas_limit"].Nodup := by decide
    refine .object (hnodup.sublist ((member_sublist _ _ _).cons_cons _)) fun member hmember => ?_
    rcases List.mem_cons.mp hmember with rfl | hmember
    · exact hmessage'
    · exact fits_of_mem_member hgas' hmember
  | emptyObject hbeyond => exact absurd hbeyond (by decide)
  | _ => cases hread

/-- What is unset in a boundary is left out, and the rest takes the room that it took. -/
theorem writesWithin_boundary : WritesWithin Boundary.ofJson (Boundary.toJson .omitted) := by
  intro depth value boundary hfits hread
  cases hfits with
  | object hnames hmembers =>
    rw [Boundary.ofJson, record, Verdict.seq_eq_valid_iff] at hread
    obtain ⟨make, finish, hmake, hfinish, rfl⟩ := hread
    rw [Verdict.map_eq_valid_iff] at hmake
    obtain ⟨start, hstart, rfl⟩ := hmake
    have hstart' := writesWithin_freeForm.nullable.optional hmembers .null hstart
    have hfinish' := writesWithin_freeForm.nullable.optional hmembers .null hfinish
    have hnodup : ["start", "end"].Nodup := by decide
    refine .object ?_ fun member hmember => ?_
    · rw [List.map_append]
      exact hnodup.sublist ((member_sublist _ _ _).append (member_sublist _ _ _))
    · rcases List.mem_append.mp hmember with hmember | hmember
      · exact fits_of_mem_member hstart' hmember
      · exact fits_of_mem_member hfinish' hmember
  | emptyObject hbeyond => exact absurd hbeyond (by decide)
  | _ => cases hread

theorem fits_unbounded (depth : Nat) :
    Json.Fits .usual (depth + 1) (Boundary.unbounded.toJson .omitted) := by
  show Json.Fits .usual (depth + 1) (.object [])
  simp

/-- The description of a request fits where the request was read. -/
theorem fits_taskMembers {depth : Nat} {source : Json} {task : TaskRequest}
    (hsource : Json.Fits .usual depth source) (hread : TaskRequest.ofJson source = .valid task) :
    Json.Fits .usual depth (.object (Message.taskMembers task)) := by
  cases hsource with
  | object hnames hmembers =>
    rw [TaskRequest.ofJson, record] at hread
    simp only [Verdict.seq_eq_valid_iff, Verdict.map_eq_valid_iff] at hread
    obtain ⟨_, rules, ⟨_, actions, ⟨_, stopOnFail, ⟨_, boundary, ⟨interval, hinterval, rfl⟩,
      hboundary, rfl⟩, hstop, rfl⟩, hactions, rfl⟩, hrules, rfl⟩ := hread
    have hactions' := writesWithin_action.someOf.required hmembers hactions
    have hinterval' := writesWithin_interval.optional hmembers (.string _) hinterval
    have hrules' := writesWithin_freeForm.list.nullable.optional hmembers .null hrules
    -- The array of the actions leaves room for the boundary that stands for none.
    obtain ⟨inside, rfl, -⟩ := hactions'.exists_inside
    have hboundary' := writesWithin_boundary.optional hmembers (fits_unbounded _) hboundary
    refine .object (by simp [Message.taskMembers]) ?_
    simp only [Message.taskMembers, List.forall_mem_cons]
    exact ⟨hinterval', hboundary', .bool _, hactions', hrules', by simp⟩
  | emptyObject hbeyond => exact absurd hbeyond (by decide)
  | _ => cases hread

/-- The message that creates a task has two brackets around its description. -/
theorem fits_createTask {depth : Nat} {source : Json} {task : TaskRequest}
    (hsource : Json.Fits .usual depth source) (hread : TaskRequest.ofJson source = .valid task) :
    Json.Fits .usual (depth + 2) (Message.createTask task).toJson := by
  have hdescription := fits_taskMembers hsource hread
  simpa [Message.toJson, Message.single] using hdescription

/-- Where a request was read, its message can be written with two more brackets open. -/
theorem write_of_source {depth : Nat} {source : Json} {task : TaskRequest}
    (hsource : Json.Fits .usual depth source) (hread : TaskRequest.ofJson source = .valid task) :
    (Message.createTask task).write (depth + 2) = .ok (Message.creationText task) := by
  have hwritable := (fits_createTask hsource hread).writable
  exact Message.write_eq_ok_iff.mpr ⟨hwritable, rfl⟩

/-- A request that was read from any value, two brackets below the limits of the reader, reads
back. -/
theorem exists_request_of_source {depth : Nat} {source : Json} {task : TaskRequest}
    (hdepth : depth + 2 = Json.Limits.usual.depth) (hsource : Json.Fits .usual depth source)
    (hread : TaskRequest.ofJson source = .valid task) :
    ∃ sent description, Json.decode .usual (Message.createTask task).text = .ok sent ∧
      describedTask? "create_task" sent = some description ∧
      TaskRequest.ofJson description = .valid task := by
  have hfits := fits_createTask hsource hread
  rw [hdepth] at hfits
  have hdecode := decode_createTask hfits
  exact ⟨_, _, hdecode, rfl, TaskRequest.ofJson_taskMembers task⟩

end ContractDrill
