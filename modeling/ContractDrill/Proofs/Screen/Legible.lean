import ContractDrill.Screen.Report

/-!
# Legible markup

What can be shown does not depend on the width of the screen: a text whose tags match and whose
styles are known is shown in every width (`legible_text`), and blocks made of such blocks are shown
as well.  A report of such blocks is shown to its end (`snd_present_of_legible`).

Which styles a width keeps is a matter of sorting and filtering the styles of the text, so no width
looks up a style that the text does not have.
-/

namespace ContractDrill

/-- The markup can be shown: its tags match, and its styles can be looked up. -/
def Markup.isLegible (markup : String) : Bool :=
  match Markup.read markup.toList with
  | .ok styled => styled.spans.all fun span => (Style.named? span.style).toBool
  | .error _ => false

namespace Block

/-! ### Texts -/

/-- A width keeps no style that the text does not have. -/
theorem mem_of_mem_keptSpans {styled : Markup.StyledText} {apart : Bool} {kept : List Glyph}
    {span : Markup.Span} (h : span ∈ keptSpans styled apart kept) : span ∈ styled.spans := by
  have hsorted := (List.mem_filter.mp h).1
  rwa [List.mem_mergeSort, List.mem_reverse] at hsorted

/-- Styles that can be looked up one by one can be looked up in a row. -/
theorem lookUpStyles_eq_ok {spans : List Markup.Span}
    (h : ∀ span ∈ spans, (Style.named? span.style).toBool = true) :
    lookUpStyles spans = .ok () := by
  induction spans with
  | nil => rfl
  | cons span rest ih =>
    have hspan := h span (List.mem_cons_self ..)
    have hrest := ih fun other hmem => h other (List.mem_cons_of_mem _ hmem)
    cases hnamed : Style.named? span.style with
    | ok style =>
      change Except.bind (((Style.named? span.style).mapError .level).map fun _ => ())
        (fun _ => lookUpStyles rest) = _
      rw [hnamed]
      exact hrest
    | error fault => simp [hnamed, Except.toBool] at hspan

/-- A legible text is read, and its styles are known in whatever order. -/
theorem exists_of_isLegible {markup : String} (h : Markup.isLegible markup = true) :
    ∃ styled, Markup.read markup.toList = .ok styled ∧
      ∀ apart kept, lookUpStyles (keptSpans styled apart kept) = .ok () := by
  unfold Markup.isLegible at h
  split at h
  · rename_i styled hread
    refine ⟨styled, hread, fun apart kept => lookUpStyles_eq_ok fun span hmem => ?_⟩
    exact List.all_eq_true.mp h span (mem_of_mem_keptSpans hmem)
  · cases h

/-! ### Blocks -/

/-- The block can be shown in every width. -/
structure Legible (block : Block) : Prop where
  rows : ∀ width, ∃ rows, block.rows width = .ok rows
  preferred : ∀ width, ∃ size, block.preferred width = .ok size

/-- A legible text is shown in every width, in every setting. -/
theorem legible_text (setting : Setting) {markup : String} (h : Markup.isLegible markup = true) :
    (text setting markup).Legible := by
  obtain ⟨styled, hread, hstyles⟩ := exists_of_isLegible h
  constructor
  · intro width
    simp only [text, hread, bind, Except.bind, hstyles]
    exact ⟨_, rfl⟩
  · intro width
    simp only [text, hread]
    exact ⟨_, rfl⟩

theorem legible_rule {title : String} (h : Markup.isLegible title = true) :
    (rule title).Legible := by
  obtain ⟨styled, hread, hstyles⟩ := exists_of_isLegible h
  constructor
  · intro width
    simp only [rule, hread, bind, Except.bind, hstyles]
    split <;> exact ⟨_, rfl⟩
  · exact fun width => ⟨width, rfl⟩

theorem Legible.fill {block : Block} (h : block.Legible) (width : Nat) :
    ∃ rows, block.fill width = .ok rows := by
  obtain ⟨rows, hrows⟩ := h.rows width
  unfold Block.fill
  rw [hrows]
  split <;> exact ⟨_, rfl⟩

theorem Legible.measure {block : Block} (h : block.Legible) (width : Nat) :
    ∃ size, block.measure width = .ok size := by
  obtain ⟨size, hsize⟩ := h.preferred width
  unfold Block.measure
  rw [hsize]
  split <;> exact ⟨_, rfl⟩

/-- Margins fail nowhere. -/
theorem Legible.padded {block : Block} (h : block.Legible) (margin : Margin) :
    (block.padded margin).Legible := by
  constructor
  · intro width
    obtain ⟨rows, hrows⟩ := h.fill (width - 2 * margin.columns)
    simp only [Block.padded, hrows]
    exact ⟨_, rfl⟩
  · intro width
    obtain ⟨size, hsize⟩ := h.measure width
    simp only [Block.padded, hsize]
    split <;> exact ⟨_, rfl⟩

theorem Legible.panel {block : Block} (h : block.Legible) (title : Option Line) (margin : Margin) :
    (Block.panel title margin block).Legible := by
  have hcontent := h.padded margin
  constructor
  · intro width
    -- With a title the panel has all the width; without one it is as wide as its content.
    cases title with
    | some title =>
      obtain ⟨rows, hrows⟩ := hcontent.fill (width - 2)
      simp only [Block.panel, pure_bind, hrows]
      exact ⟨_, rfl⟩
    | none =>
      obtain ⟨size, hsize⟩ := hcontent.measure (width - 2)
      obtain ⟨rows, hrows⟩ := hcontent.fill size
      simp only [Block.panel, hsize, bind, Except.bind, hrows]
      exact ⟨_, rfl⟩
  · exact fun width => ⟨width, rfl⟩

end Block

/-! ### Reports -/

namespace Report

theorem legible_blank : Block.Legible blank :=
  ⟨fun _ => ⟨_, rfl⟩, fun _ => ⟨_, rfl⟩⟩

/-- A text without markup can always be shown. -/
theorem legible_verbatim (s : String) : (verbatim s).Legible :=
  ⟨fun _ => ⟨_, rfl⟩, fun _ => ⟨_, rfl⟩⟩

/-- Each block of the report can be shown. -/
def Legible (report : Report) : Prop :=
  ∀ block ∈ report, block.Legible

/-- An echo has no markup. -/
theorem legible_echo (output : String) : Legible (echo output) := by
  unfold Legible echo
  split
  · simp
  · simpa using legible_verbatim _

/-- A legible report is shown to its end. -/
theorem snd_present_of_legible {report : Report} (h : report.Legible) (width : Nat) :
    (report.present width).2 = none := by
  induction report with
  | nil => rfl
  | cons block rest ih =>
    obtain ⟨rows, hrows⟩ := (h block (List.mem_cons_self ..)).rows width
    rw [present, hrows]
    exact ih fun other hmem => h other (List.mem_cons_of_mem _ hmem)

end Report

end ContractDrill
