import ContractDrill.Proofs.Screen.Pieces
import ContractDrill.Screen.Table

/-!
# Legible tables

A table can be shown in every width if each of its texts can (`Table.legible_block`).  The widths of
its columns are measured on the texts, and each line is filled with them; neither fails as long as
no cell does.
-/

namespace ContractDrill

/-! ### Steps that come through -/

section

variable {α β ε : Type}

theorem exists_bind_eq_ok {x : Except ε α} {f : α → Except ε β} (hx : ∃ a, x = .ok a)
    (hf : ∀ a, ∃ b, f a = .ok b) : ∃ b, x >>= f = .ok b := by
  obtain ⟨a, rfl⟩ := hx
  exact hf a

theorem exists_mapM_eq_ok {f : α → Except ε β} {items : List α}
    (h : ∀ item ∈ items, ∃ value, f item = .ok value) : ∃ values, items.mapM f = .ok values := by
  induction items with
  | nil => exact ⟨[], rfl⟩
  | cons item rest ih =>
    obtain ⟨hitem, hrest⟩ := List.forall_mem_cons.mp h
    rw [List.mapM_cons]
    exact exists_bind_eq_ok hitem fun value => exists_bind_eq_ok (ih hrest) fun values => ⟨_, rfl⟩

end

namespace Table

/-- Each text of the table can be shown. -/
structure IsLegible (table : Table) : Prop where
  headers : ∀ column ∈ table.columns, Markup.isLegible column.header = true
  cells : ∀ row ∈ table.rows, ∀ s ∈ row, Markup.isLegible s = true

theorem legible_cell (column : Column) {markup : String} (h : Markup.isLegible markup = true) :
    (cell column markup).Legible :=
  (Block.legible_text _ h).padded _

section

variable {table : Table}

/-! ### Widths -/

/-- A row that has no text for a column has the empty text there. -/
theorem IsLegible.texts (h : table.IsLegible) {index : Nat} {s : String}
    (hs : s ∈ table.texts index) : Markup.isLegible s = true := by
  obtain ⟨row, hrow, rfl⟩ := List.mem_map.mp hs
  rw [List.getD_eq_getElem?_getD]
  cases hfound : row[index]? with
  | none => decide +kernel
  | some s => exact h.cells row hrow s (List.mem_of_getElem? hfound)

/-- The width of a column is measured, since each of its texts is. -/
theorem IsLegible.columnWidth (h : table.IsLegible) {column : Column}
    (hcolumn : column ∈ table.columns) (room index : Nat) :
    ∃ width, table.columnWidth room column index = .ok width := by
  unfold Table.columnWidth
  split
  · exact ⟨_, rfl⟩
  · split
    · exact ⟨_, rfl⟩
    · refine exists_bind_eq_ok (exists_mapM_eq_ok fun s hs => ?_) fun widths => ⟨_, rfl⟩
      refine (legible_cell column ?_).measure room
      rcases List.mem_cons.mp hs with rfl | hs
      · exact h.headers column hcolumn
      · exact h.texts hs

theorem mem_columns_of_mem_placed {place : Column × Nat} (h : place ∈ table.placed) :
    place.1 ∈ table.columns :=
  List.fst_mem_of_mem_zipIdx h

theorem IsLegible.widths (h : table.IsLegible) (room : Nat) :
    ∃ widths, table.widths room = .ok widths := by
  unfold Table.widths
  refine exists_bind_eq_ok (exists_mapM_eq_ok fun place hplace => ?_) fun wanted => ?_
  · have hcolumn := mem_columns_of_mem_placed hplace
    exact exists_bind_eq_ok (h.columnWidth hcolumn room place.2) fun width => ⟨_, rfl⟩
  · split
    · exact ⟨_, rfl⟩
    · refine exists_mapM_eq_ok fun sized hsized => ?_
      have hplace := (List.of_mem_zip hsized).1
      exact h.columnWidth (mem_columns_of_mem_placed hplace) sized.2 sized.1.2

/-! ### Rows -/

/-- A line of texts is filled in if each of them is legible. -/
theorem exists_lineRows_eq_ok (columns : List Column) (widths : List Nat) {texts : List String}
    (h : ∀ s ∈ texts, Markup.isLegible s = true) :
    ∃ rows, lineRows columns widths texts = .ok rows := by
  unfold lineRows
  refine exists_bind_eq_ok (exists_mapM_eq_ok fun part hpart => ?_) fun blocks => ⟨_, rfl⟩
  have hcell := legible_cell part.1.1 (h _ (List.of_mem_zip hpart).2)
  exact exists_bind_eq_ok (hcell.fill part.1.2) fun rows => ⟨_, rfl⟩

/-- A table of texts that can be shown can be shown. -/
theorem legible_block (h : table.IsLegible) : table.block.Legible := by
  refine ⟨fun width => ?_, fun width => ⟨width, rfl⟩⟩
  refine exists_bind_eq_ok (h.widths _) fun widths => ?_
  refine exists_bind_eq_ok (exists_lineRows_eq_ok _ _ fun s hs => ?_) fun head => ?_
  · obtain ⟨column, hcolumn, rfl⟩ := List.mem_map.mp hs
    exact h.headers column hcolumn
  · have hbody : ∃ body, table.rows.mapM (lineRows table.columns widths) = .ok body :=
      exists_mapM_eq_ok fun row hrow => exists_lineRows_eq_ok _ _ (h.cells row hrow)
    exact exists_bind_eq_ok hbody fun body => ⟨_, rfl⟩

end

end Table

end ContractDrill
