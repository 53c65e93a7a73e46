import StepPhrase.Error

/-! Tables: rectangular grids of text cells. -/
namespace StepPhrase

/-- The length of the first row. -/
def widthOf (rows : List (List String)) : Nat := (rows.head?.map List.length).getD 0

/-- Names the first row that is not as long as the first one. -/
def unevenRow? (rows : List (List String)) : Option TableError :=
  (rows.zipIdx.find? fun (row, _) => row.length != widthOf rows).map fun (row, i) =>
    .unevenRow (i + 1) (widthOf rows) row.length

theorem unevenRow?_eq_none_iff {rows : List (List String)} :
    unevenRow? rows = none ↔ ∀ row ∈ rows, row.length = widthOf rows := by
  simp only [unevenRow?, Option.map_eq_none_iff, List.find?_eq_none, Prod.forall,
    List.mk_mem_zipIdx_iff_getElem?, bne_iff_ne, ne_eq, Decidable.not_not]
  constructor
  · intro h row hrow
    obtain ⟨i, hi⟩ := List.getElem?_of_mem hrow
    exact h row i hi
  · intro h row i hi
    exact h row (List.mem_of_getElem? hi)

/-- What converts the tables that are bound to it: the registry, or a converter of a caller, told
from others by its number. -/
inductive Binding where
  | registry
  | caller (number : Nat)
  deriving DecidableEq, Repr

structure DataTable where
  cells : List (List String)
  length_eq : ∀ row ∈ cells, row.length = widthOf cells
  /-- What the table is bound to, if to anything. -/
  binding : Option Binding := none

namespace DataTable

/-- The table of the rows, if all are of one length. -/
def ofRows (rows : List (List String)) : Except TableError DataTable :=
  match h : unevenRow? rows with
  | some e => .error e
  | none => .ok ⟨rows, unevenRow?_eq_none_iff.1 h, none⟩

def empty : DataTable := ⟨[], by simp, none⟩

def singleCell (text : String) : DataTable := ⟨[[text]], by simp [widthOf], none⟩

/-- The table bound anew, to the registry unless to something else. -/
def bind (t : DataTable) (b : Binding := .registry) : DataTable := { t with binding := some b }

def height (t : DataTable) : Nat := t.cells.length

def width (t : DataTable) : Nat := widthOf t.cells

def isEmpty (t : DataTable) : Bool := t.width == 0

def row? (t : DataTable) (i : Nat) : Option (List String) := t.cells[i]?

def cell? (t : DataTable) (i j : Nat) : Option String := do (← t.cells[i]?)[j]?

/-- The cells of each column, the columns from left to right. -/
def columns (t : DataTable) : List (List String) :=
  (List.range t.width).map fun j => t.cells.map fun row => row.getD j ""

theorem length_of_mem_columns {t : DataTable} {column : List String} (h : column ∈ t.columns) :
    column.length = t.height := by
  obtain ⟨j, -, rfl⟩ := List.mem_map.1 h
  simp [height]

theorem widthOf_columns_of_mem {t : DataTable} {column : List String} (h : column ∈ t.columns) :
    widthOf t.columns = t.height := by
  cases hc : t.columns with
  | nil => simp [hc] at h
  | cons first rest =>
    have : first ∈ t.columns := by simp [hc]
    simp [widthOf, length_of_mem_columns this]

/-- The table with rows and columns exchanged. -/
def transpose (t : DataTable) : DataTable :=
  ⟨t.columns, fun _ h => (length_of_mem_columns h).trans (widthOf_columns_of_mem h).symm,
    t.binding⟩

/-- The table, transposed if asked. -/
def oriented (t : DataTable) (transposed : Bool) : DataTable :=
  if transposed then t.transpose else t

end DataTable

end StepPhrase
