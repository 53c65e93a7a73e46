import StepPhrase.Value

/-! Table types: conversions of raw rows that steps ask for by name. -/
namespace StepPhrase

variable {κ : Type} [RecordKind κ]

structure TableType (κ : Type) [RecordKind κ] where
  name : String
  target : ValueType κ
  convert : List (List String) → Except Cause target.Element

namespace TableType

/-- The table type for records of a kind. -/
def records (name : String) (k : κ) : TableType κ :=
  ⟨name, .rows k, fun rows =>
    ((DataTable.ofRows rows).bind (RecordKind.reader k).readTable).mapError .table⟩

/-- The value of the rows; a caller's reasons are told with the name of the table type. -/
def value (t : TableType κ) (rows : List (List String)) : Except ConversionError (Value κ) :=
  match t.convert rows with
  | .ok x => .ok ⟨t.target, x⟩
  | .error cause => .error (.transform t.name cause)

end TableType

end StepPhrase
