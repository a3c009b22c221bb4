import ContractDrill.Screen.Report
import Mathlib.Data.List.Basic

/-!
# Echoes

The screen shows a text without markup in lines of any length: it drops a few control characters,
fills up tabs with spaces, and leaves every other character where it is (`Renders`).  So an echo
shows an output as it is just if the output has none of the two (`Renders.eq_iff`).
-/

namespace ContractDrill

/-- What a console gets of lines: a line feed behind each of them. -/
def consoleText (lines : List Line) : List Char :=
  lines.flatMap (· ++ ['\n'])

/-- The screen shows the first text as the second. -/
inductive Renders : List Char → List Char → Prop where
  | nil : Renders [] []
  | kept {c : Char} {s t : List Char} (hdropped : isDropped c = false) (htab : c ≠ '\t') :
    Renders s t → Renders (c :: s) (c :: t)
  | dropped {c : Char} {s t : List Char} (hdropped : isDropped c = true) :
    Renders s t → Renders (c :: s) t
  | tab {count : Nat} {s t : List Char} (hpos : 0 < count) (hle : count ≤ tabSize) :
    Renders s t → Renders ('\t' :: s) (List.replicate count ' ' ++ t)

namespace Renders

variable {s t s' t' : List Char}

theorem append (h : Renders s t) (h' : Renders s' t') : Renders (s ++ s') (t ++ t') := by
  induction h with
  | nil => exact h'
  | kept hdropped htab _ ih => exact .kept hdropped htab ih
  | dropped hdropped _ ih => exact .dropped hdropped ih
  | tab hpos hle _ ih =>
    rw [List.append_assoc]
    exact .tab hpos hle ih

/-- What the screen drops may as well be dropped beforehand. -/
theorem of_printed (h : Renders (printed s) t) : Renders s t := by
  induction s generalizing t with
  | nil => exact h
  | cons c s ih =>
    by_cases hc : isDropped c = true
    · refine .dropped hc (ih ?_)
      rwa [printed, List.filter_cons_of_neg (by simpa using hc)] at h
    · rw [printed, List.filter_cons_of_pos (by simpa using hc)] at h
      cases h with
      | kept hdropped htab h => exact .kept hdropped htab (ih h)
      | dropped hdropped h => exact absurd hdropped hc
      | tab hpos hle h => exact .tab hpos hle (ih h)

/-- No tab is left, and nothing that the screen drops. -/
theorem forall_mem (h : Renders s t) : ∀ c ∈ t, c ≠ '\t' ∧ isDropped c = false := by
  induction h with
  | nil => exact fun _ hmem => absurd hmem List.not_mem_nil
  | kept hdropped htab _ ih => exact List.forall_mem_cons.mpr ⟨⟨htab, hdropped⟩, ih⟩
  | dropped _ _ ih => exact ih
  | tab _ _ _ ih =>
    refine List.forall_mem_append.mpr ⟨fun c hc => ?_, ih⟩
    obtain rfl := List.eq_of_mem_replicate hc
    decide

/-- A text is shown as it is if it has no tab, and nothing that the screen drops. -/
theorem eq_iff (h : Renders s t) : t = s ↔ ∀ c ∈ s, c ≠ '\t' ∧ isDropped c = false := by
  constructor
  · rintro rfl
    exact h.forall_mem
  · intro hs
    induction h with
    | nil => rfl
    | kept _ _ _ ih => rw [ih (List.forall_mem_cons.mp hs).2]
    | dropped hdropped _ _ =>
      have hkept := (List.forall_mem_cons.mp hs).1.2
      rw [hdropped] at hkept
      cases hkept
    | tab _ _ _ _ => exact absurd rfl (List.forall_mem_cons.mp hs).1.1

end Renders

/-! ### Lines -/

/-- What is in front of a tab stays; the tab becomes up to eight spaces. -/
theorem exists_faces_toTabStop (before : List Glyph) (tab : Glyph) :
    ∃ count, 0 < count ∧ count ≤ tabSize ∧
      faces (toTabStop before tab) = faces before ++ List.replicate count ' ' := by
  let reached := cells (faces (before ++ [{ tab with char := ' ' }]))
  let missing := (tabSize - reached % tabSize) % tabSize
  have hmissing : missing < tabSize := Nat.mod_lt _ (by decide)
  refine ⟨missing + 1, by omega, hmissing, ?_⟩
  simp [toTabStop, faces, reached, missing, List.replicate_succ]

theorem faces_append (s t : List Glyph) : faces (s ++ t) = faces s ++ faces t :=
  List.map_append

/-- Behind what stands in front of it, a line is shown with spaces in place of its tabs. -/
theorem exists_renders_expandTabsBehind {line : List Glyph}
    (h : ∀ c ∈ faces line, isDropped c = false) (before : List Glyph) :
    ∃ shown, faces (expandTabsBehind before line) = faces before.reverse ++ shown ∧
      Renders (faces line) shown := by
  -- What stands in front of a tab tells how far it is filled up, and is kept until then.
  induction line generalizing before with
  | nil => exact ⟨[], by simp [expandTabsBehind], .nil⟩
  | cons glyph line ih =>
    obtain ⟨hglyph, hline⟩ := List.forall_mem_cons.mp h
    by_cases htab : glyph.char = '\t'
    · obtain ⟨count, hpos, hle, hstop⟩ := exists_faces_toTabStop before.reverse glyph
      obtain ⟨shown, hshown, hrenders⟩ := ih hline []
      refine ⟨List.replicate count ' ' ++ shown, ?_, ?_⟩
      · rw [expandTabsBehind, if_pos htab, faces_append, hstop, hshown, List.append_assoc]
        rfl
      · change Renders (glyph.char :: faces line) _
        rw [htab]
        exact .tab hpos hle hrenders
    · obtain ⟨shown, hshown, hrenders⟩ := ih hline (glyph :: before)
      refine ⟨glyph.char :: shown, ?_, .kept hglyph htab hrenders⟩
      rw [expandTabsBehind, if_neg htab, hshown]
      simp [faces]

/-- A line is rendered with its tabs filled up. -/
theorem renders_expandTabs {line : List Glyph} (h : ∀ c ∈ faces line, isDropped c = false) :
    Renders (faces line) (faces (expandTabs line)) := by
  obtain ⟨shown, hshown, hrenders⟩ := exists_renders_expandTabsBehind h []
  rw [expandTabs, hshown]
  exact hrenders

/-- A text is its lines with line feeds between them. -/
theorem intercalate_splitOnP (s : List Glyph) :
    ['\n'].intercalate ((s.splitOnP (·.char = '\n')).map faces) = faces s := by
  induction s with
  | nil => rfl
  | cons glyph s ih =>
    rw [List.splitOnP_cons_eq_if_modifyHead]
    obtain ⟨first, rest, hsplit⟩ :=
      List.exists_cons_of_ne_nil (List.splitOnP_ne_nil (fun glyph : Glyph => glyph.char = '\n') s)
    rw [hsplit] at ih ⊢
    -- A line feed begins a new line; any other character joins the first one.
    split
    · rename_i hfeed
      rw [List.map_cons, List.map_cons, List.intercalate_cons_cons, ← List.map_cons, ih]
      simpa [faces] using (of_decide_eq_true hfeed).symm
    · rw [List.modifyHead_cons, List.map_cons]
      rw [List.map_cons] at ih
      cases rest with
      | nil => simpa [faces] using ih
      | cons second rest =>
        rw [List.map_cons, List.intercalate_cons_cons] at ih ⊢
        exact congrArg (glyph.char :: ·) ih

/-- Lines of a text are shown one below the other. -/
theorem exists_renders_lines {lines : List (List Glyph)} (hne : lines ≠ [])
    (h : ∀ c ∈ ['\n'].intercalate (lines.map faces), isDropped c = false) :
    ∃ shown, consoleText (lines.map fun line => faces (expandTabs line)) = shown ++ ['\n'] ∧
      Renders (['\n'].intercalate (lines.map faces)) shown := by
  induction lines with
  | nil => exact absurd rfl hne
  | cons line lines ih =>
    cases lines with
    | nil =>
      have htext : ['\n'].intercalate ([line].map faces) = faces line :=
        List.intercalate_singleton
      rw [htext] at h ⊢
      exact ⟨faces (expandTabs line), by simp [consoleText], renders_expandTabs h⟩
    | cons second lines =>
      have htext : ['\n'].intercalate ((line :: second :: lines).map faces) =
          faces line ++ '\n' :: ['\n'].intercalate ((second :: lines).map faces) := by
        simp [List.intercalate_cons_cons]
      rw [htext] at h ⊢
      obtain ⟨hline, hrest⟩ := List.forall_mem_append.mp h
      obtain ⟨shown, hshown, hrenders⟩ :=
        ih (List.cons_ne_nil _ _) (List.forall_mem_cons.mp hrest).2
      refine ⟨faces (expandTabs line) ++ '\n' :: shown, ?_, ?_⟩
      · rw [consoleText] at hshown ⊢
        rw [List.map_cons, List.flatMap_cons, hshown]
        simp
      · have hfeed : isDropped '\n' = false := by decide
        exact (renders_expandTabs hline).append (.kept hfeed (by decide) hrenders)

/-! ### Texts without markup -/

namespace Report

/-- A text without markup shows its characters. -/
theorem faces_glyphs (s : List Char) : faces (glyphs s) = s := by
  unfold faces glyphs
  rw [List.map_map]
  exact List.zipIdx_map_fst 0 s

/-- A text without markup is shown in its own lines, in every width. -/
theorem exists_renders_verbatim (width : Nat) (s : String) :
    ∃ lines shown, present width [verbatim s] = (lines, none) ∧
      consoleText lines = shown ++ ['\n'] ∧ Renders s.toList shown := by
  have htext := intercalate_splitOnP (glyphs (printed s.toList))
  rw [faces_glyphs] at htext
  have hkept : ∀ c ∈ printed s.toList, isDropped c = false := by
    intro c hc
    simpa using (List.mem_filter.mp hc).2
  rw [← htext] at hkept
  obtain ⟨shown, hshown, hrenders⟩ := exists_renders_lines (List.splitOnP_ne_nil _ _) hkept
  rw [htext] at hrenders
  refine ⟨_, shown, rfl, ?_, hrenders.of_printed⟩
  rw [← hshown]
  simp [textLines, Row.text, Function.comp_def]

end Report

end ContractDrill
