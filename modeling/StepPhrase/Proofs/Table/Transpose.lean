import Mathlib.Data.List.Basic
import Mathlib.Data.List.GetD
import StepPhrase.Conversion.Converter
import StepPhrase.Proofs.Table.Rows

/-! Transposed tables: every cell is kept, whatever the shape of the table, but tables of empty rows
lose their height. -/
namespace StepPhrase

variable {rows columns : List (List String)} {row : List String} {binding : Option Binding}
  {t t' : DataTable} {i j : Nat}

/-- Adds the cells of a row to the ends of the columns. Cells beyond the last column are lost. -/
def addRow : List (List String) → List String → List (List String)
  | column :: columns, cell :: row => (column ++ [cell]) :: addRow columns row
  | columns, _ => columns

/-- A column for each cell of the first row, filled row by row. -/
def columnsOf (rows : List (List String)) : List (List String) :=
  rows.foldl addRow (.replicate (widthOf rows) [])

/-- The cells of tables, and what the tables are bound to, as the operations make them. -/
inductive Obtained : List (List String) → Option Binding → Prop
  | ofRows {rows : List (List String)} {t : DataTable} : DataTable.ofRows rows = .ok t →
    Obtained rows none
  | empty : Obtained [] none
  | singleCell {text : String} : Obtained [[text]] none
  | bind {rows : List (List String)} {binding : Option Binding} (b : Binding) :
    Obtained rows binding → Obtained rows (some b)
  | transpose {rows : List (List String)} {binding : Option Binding} : Obtained rows binding →
    Obtained (columnsOf rows) binding
  | converted {κ : Type} [RecordKind κ] {conversions : Conversions κ} {t t' : DataTable} :
    Obtained t.cells t.binding → Converter.table.run conversions t = .ok t' →
      Obtained t'.cells t'.binding

theorem getElem?_addRow :
    (addRow columns row)[j]? = columns[j]?.map (· ++ row[j]?.toList) := by
  induction columns generalizing row j with
  | nil => simp [addRow]
  | cons column columns ih =>
    cases row with
    | nil => simp [addRow]
    | cons cell row =>
      cases j with
      | zero => rfl
      | succ j => exact ih

/-- What stands in a column stays there, and each row adds the cell that it has there. -/
theorem getElem?_foldl_addRow :
    (rows.foldl addRow columns)[j]? = columns[j]?.map (· ++ rows.filterMap (·[j]?)) := by
  induction rows generalizing columns with
  | nil => simp
  | cons row rows ih =>
    rw [List.foldl_cons, ih, getElem?_addRow, Option.map_map]
    congr 1
    funext column
    cases h : row[j]? with
    | none => simp [h]
    | some cell => simp [h]

theorem getElem?_columnsOf : (columnsOf rows)[j]? =
    if j < widthOf rows then some (rows.filterMap (·[j]?)) else none := by
  rw [columnsOf, getElem?_foldl_addRow, List.getElem?_replicate]
  split
  · rfl
  · rfl

namespace DataTable

/-- Both tables have the same cells, with rows and columns exchanged. -/
structure IsTranspose (t t' : DataTable) : Prop where
  cell : ∀ i j, t'.cell? j i = t.cell? i j
  height : t'.height = t.width
  length : ∀ row ∈ t'.cells, row.length = t.height
  binding : t'.binding = t.binding

theorem getElem?_of_mem_cells (h : row ∈ t.cells) :
    row[j]? = if j < t.width then some (row.getD j "") else none := by
  have hlength : row.length = t.width := t.length_eq row h
  split
  · rename_i hj
    have hlt : j < row.length := hlength ▸ hj
    rw [List.getD_eq_getElem row "" hlt, List.getElem?_eq_getElem hlt]
  · rename_i hj
    exact List.getElem?_eq_none (by omega)

theorem getElem?_cells_transpose : t.transpose.cells[j]? =
    if j < t.width then some (t.cells.map (·.getD j "")) else none := by
  change t.columns[j]? = _
  rw [columns, List.getElem?_map]
  split
  · rename_i hj
    rw [List.getElem?_range hj]
    rfl
  · rename_i hj
    rw [List.getElem?_eq_none (by simpa using hj)]
    rfl

/-- Where all rows are of one length, no cell is lost when the columns are filled. -/
theorem columnsOf_cells : columnsOf t.cells = t.transpose.cells := by
  apply List.ext_getElem?
  intro j
  rw [getElem?_columnsOf, getElem?_cells_transpose]
  change (if j < t.width then _ else _) = _
  split
  · rename_i hj
    congr 1
    apply List.filterMap_eq_map_iff_forall_eq_some.2
    intro row hrow
    rw [getElem?_of_mem_cells hrow, if_pos hj]
  · rfl

theorem isTranspose_transpose : t.IsTranspose t.transpose where
  cell i j := by
    change t.transpose.cells[j]?.bind (·[i]?) = t.cells[i]?.bind (·[j]?)
    rw [getElem?_cells_transpose]
    cases hrow : t.cells[i]? with
    | none =>
      split
      · simp [hrow]
      · rfl
    | some row =>
      rw [Option.bind_some, getElem?_of_mem_cells (List.mem_of_getElem? hrow)]
      split
      · simp [hrow]
      · rfl
  height := by simp [height, transpose, columns]
  length row hrow := length_of_mem_columns hrow
  binding := rfl

/-- A table is known by its height, its cells and what it is bound to. -/
theorem eq_of_cell? (hheight : t.height = t'.height) (hcell : ∀ i j, t.cell? i j = t'.cell? i j)
    (hbinding : t.binding = t'.binding) : t = t' := by
  have hcells : t.cells = t'.cells := by
    apply List.ext_getElem hheight
    intro i hi hi'
    apply List.ext_getElem?
    intro j
    have h := hcell i j
    change t.cells[i]?.bind (·[j]?) = t'.cells[i]?.bind (·[j]?) at h
    rwa [List.getElem?_eq_getElem hi, List.getElem?_eq_getElem hi'] at h
  cases t
  cases t'
  cases hcells
  cases hbinding
  rfl

theorem isTranspose_iff : t.IsTranspose t' ↔ t' = t.transpose := by
  constructor
  · intro h
    have h' : t.IsTranspose t.transpose := isTranspose_transpose
    apply eq_of_cell? (h.height.trans h'.height.symm)
    · intro j i
      exact (h.cell i j).trans (h'.cell i j).symm
    · exact h.binding.trans h'.binding.symm
  · rintro rfl
    exact isTranspose_transpose

theorem height_transpose : t.transpose.height = t.width := isTranspose_transpose.height

theorem width_of_cells_eq_nil (h : t.cells = []) : t.width = 0 := by
  rw [width, h]
  rfl

theorem width_transpose (h : 0 < t.width) : t.transpose.width = t.height := by
  rw [← height_transpose] at h
  obtain ⟨row, hrow⟩ := List.exists_mem_of_length_pos h
  exact (t.transpose.length_eq row hrow).symm.trans (isTranspose_transpose.length row hrow)

/-- A table without columns loses its rows. -/
theorem cells_transpose_transpose (h : t.width = 0) : t.transpose.transpose.cells = [] := by
  have hcells : t.transpose.cells = [] := List.eq_nil_of_length_eq_zero (height_transpose.trans h)
  exact List.eq_nil_of_length_eq_zero (height_transpose.trans (width_of_cells_eq_nil hcells))

theorem transpose_transpose_eq_iff :
    t.transpose.transpose = t ↔ t.cells = [] ∨ 0 < t.width := by
  constructor
  · intro h
    by_contra hne
    obtain ⟨hcells, hwidth⟩ := not_or.1 hne
    rw [← h] at hcells
    exact hcells (cells_transpose_transpose (Nat.eq_zero_of_not_pos hwidth))
  · intro h
    have hheight : t.transpose.width = t.height := by
      rcases h with hcells | hwidth
      · have hzero : t.transpose.height = 0 := height_transpose.trans (width_of_cells_eq_nil hcells)
        rw [height, hcells]
        exact width_of_cells_eq_nil (List.eq_nil_of_length_eq_zero hzero)
      · exact width_transpose hwidth
    apply eq_of_cell? (height_transpose.trans hheight)
    · intro i j
      exact (isTranspose_transpose.cell j i).trans (isTranspose_transpose.cell i j)
    · rfl

end DataTable

/-- Where the operations start from rectangular rows, they make nothing else. -/
theorem Obtained.exists_table (h : Obtained rows binding) :
    ∃ t : DataTable, t.cells = rows ∧ t.binding = binding := by
  induction h with
  | @ofRows rows t h =>
    obtain ⟨hrows, -⟩ := DataTable.ofRows_eq_ok_iff.1 h
    exact ⟨⟨rows, hrows, none⟩, rfl, rfl⟩
  | empty => exact ⟨.empty, rfl, rfl⟩
  | singleCell => exact ⟨.singleCell _, rfl, rfl⟩
  | bind b h ih =>
    obtain ⟨t, rfl, -⟩ := ih
    exact ⟨t.bind b, rfl, rfl⟩
  | transpose h ih =>
    obtain ⟨t, rfl, rfl⟩ := ih
    exact ⟨t.transpose, DataTable.columnsOf_cells.symm, rfl⟩
  | converted h hconverted ih => exact ⟨_, rfl, rfl⟩

theorem Obtained.length_eq (h : Obtained rows binding) : ∀ row ∈ rows, row.length = widthOf rows := by
  obtain ⟨t, rfl, -⟩ := h.exists_table
  exact t.length_eq

theorem obtained_cells : Obtained t.cells t.binding := by
  have hrows : Obtained t.cells none := .ofRows (DataTable.ofRows_of_rectangular t.length_eq)
  cases t.binding with
  | none => exact hrows
  | some b => exact hrows.bind b

/-- The operations on tables make rectangular grids, all of them and nothing else. The transposed
table is the only one with the cells exchanged, though its columns are filled row by row, and it is
converted as the table is. Transposed again it is the table, unless rows without cells are lost. -/
theorem transpose_lossless (κ : Type) [RecordKind κ] :
    (∀ rows binding, Obtained rows binding → ∀ row ∈ rows, row.length = widthOf rows) ∧
    ∀ t : DataTable, Obtained t.cells t.binding ∧
      t.transpose.cells = columnsOf t.cells ∧
      (∀ t', t.IsTranspose t' ↔ t' = t.transpose) ∧
      (∀ (conversions : Conversions κ) type,
        t.transpose.convert conversions type false = t.convert conversions type true) ∧
      (t.transpose.transpose = t ↔ t.cells = [] ∨ 0 < t.width) ∧
      (t.width = 0 → t.transpose.transpose.cells = []) := by
  refine ⟨fun rows binding => Obtained.length_eq, fun t => ⟨obtained_cells, ?_, ?_, ?_, ?_, ?_⟩⟩
  · exact DataTable.columnsOf_cells.symm
  · exact fun t' => DataTable.isTranspose_iff
  · exact fun conversions type => rfl
  · exact DataTable.transpose_transpose_eq_iff
  · exact DataTable.cells_transpose_transpose

/-- Of uneven rows, which no table has, cells would be lost. -/
example : columnsOf [["a", "b"], ["c", "d", "e"]] = [["a", "c"], ["b", "d"]] := rfl

end StepPhrase
