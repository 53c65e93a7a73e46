import StepPhrase.Table.Basic

/-! Headers: the names of a table's columns. -/
namespace StepPhrase

/-- The first name that stands in the list before, or is in `seen`. -/
def repeatedName? (seen : List String) : List String → Option String
  | [] => none
  | name :: rest => if seen.contains name then some name else repeatedName? (name :: seen) rest

theorem nodup_of_repeatedName? {seen names : List String} (h : repeatedName? seen names = none) :
    names.Nodup ∧ ∀ name ∈ names, name ∉ seen := by
  induction names generalizing seen with
  | nil => simp
  | cons name rest ih =>
    unfold repeatedName? at h
    split at h
    · simp at h
    · rename_i hseen
      obtain ⟨hrest, hnot⟩ := ih h
      refine ⟨List.nodup_cons.2 ⟨fun hmem => hnot name hmem (by simp), hrest⟩, fun other hmem => ?_⟩
      rcases List.mem_cons.1 hmem with rfl | hmem
      · simpa using hseen
      · exact fun hin => hnot other hmem (List.mem_cons_of_mem _ hin)

structure Header where
  columns : List String
  nodup : columns.Nodup

namespace Header

/-- The header of the row, whose names have to differ. -/
def ofRow (row : List String) : Except TableError Header :=
  match h : repeatedName? [] row with
  | some name => .error (.duplicateHeader name)
  | none => .ok ⟨row, (nodup_of_repeatedName? h).1⟩

def size (h : Header) : Nat := h.columns.length

def isEmpty (h : Header) : Bool := h.columns.isEmpty

def column? (h : Header) (i : Nat) : Option String := h.columns[i]?

/-- The position of the column, which row `rowNumber` asks for. -/
def position (h : Header) (name : String) (rowNumber : Nat) : Except TableError Nat :=
  match h.columns.idxOf? name with
  | some i => .ok i
  | none => .error (.missingColumn rowNumber name)

end Header

end StepPhrase
