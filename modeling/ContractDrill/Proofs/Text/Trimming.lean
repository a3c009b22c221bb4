import ContractDrill.Text.CharacterClass
import Mathlib.Data.List.Induction

/-!
# Trimmed ends

A text is some text and a row of one character behind it (`exists_eq_append_replicate`), and
trimming it by that character leaves the text in front of the row (`trimEndBy_append_replicate`).
-/

namespace ContractDrill

variable {drop : Char → Bool} {s : List Char} {last : Char}

/-- Nothing is taken off a text whose last character stays. -/
theorem trimEndBy_eq_self (h : ∀ c ∈ s.getLast?, drop c = false) : trimEndBy drop s = s := by
  unfold trimEndBy
  cases hreverse : s.reverse with
  | nil => rw [List.dropWhile_nil, ← hreverse, List.reverse_reverse]
  | cons c rest =>
    have hc : c ∈ s.getLast? := by
      rw [← List.reverse_reverse s, List.getLast?_reverse, hreverse]
      rfl
    rw [List.dropWhile_cons_of_neg (by rw [h c hc]; exact Bool.false_ne_true), ← hreverse,
      List.reverse_reverse]

theorem trimEndBy_concat_eq (hlast : drop last = true) (s : List Char) :
    trimEndBy drop (s ++ [last]) = trimEndBy drop s := by
  unfold trimEndBy
  rw [List.reverse_append, List.reverse_singleton, List.singleton_append,
    List.dropWhile_cons_of_pos hlast]

theorem trimEndBy_concat (hlast : drop last = true) (h : ∀ c ∈ s.getLast?, drop c = false) :
    trimEndBy drop (s ++ [last]) = s := by
  rw [trimEndBy_concat_eq hlast, trimEndBy_eq_self h]

/-- A row of a character may be taken off the end of a text. -/
theorem exists_eq_append_replicate (last : Char) (s : List Char) :
    ∃ front count, s = front ++ List.replicate count last ∧ front.getLast? ≠ some last := by
  induction s using List.reverseRecOn with
  | nil => exact ⟨[], 0, rfl, by simp⟩
  | append_singleton s c ih =>
    by_cases hc : c = last
    · obtain ⟨front, count, rfl, hfront⟩ := ih
      refine ⟨front, count + 1, ?_, hfront⟩
      rw [hc, List.append_assoc, List.replicate_succ']
    · exact ⟨s ++ [c], 0, by simp, by simpa using hc⟩

/-- Trimming takes the row away and nothing else. -/
theorem trimEndBy_append_replicate (h : s.getLast? ≠ some last) (count : Nat) :
    trimEndBy (· = last) (s ++ List.replicate count last) = s := by
  induction count with
  | zero =>
    rw [List.replicate_zero, List.append_nil]
    refine trimEndBy_eq_self fun c hc => decide_eq_false ?_
    rintro rfl
    exact h hc
  | succ count ih =>
    rw [List.replicate_succ', ← List.append_assoc, trimEndBy_concat_eq (decide_eq_true rfl), ih]

end ContractDrill
