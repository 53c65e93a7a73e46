import StepPhrase.NameMap
import StepPhrase.Scalar.Cell
import StepPhrase.Table.Row

/-! Values of the types that captures, doc-strings and tables are converted to. -/
namespace StepPhrase

/-- Cells by name. -/
abbrev CellMap := NameMap String

/-- The kinds of record that a suite reads from the rows of its tables. -/
class RecordKind (κ : Type) where
  Record : κ → Type
  name : κ → String
  reader : (k : κ) → RowReader (Record k)

inductive ValueType (κ : Type) where
  | int (t : IntType)
  | float (t : FloatType)
  | bool
  | char
  | text
  | list (t : ValueType κ)
  | pair (a b : ValueType κ)
  | cellMap
  | table
  | rows (k : κ)
  deriving DecidableEq

namespace ValueType

variable {κ : Type} [RecordKind κ]

def Element : ValueType κ → Type
  | int t => Bounded t
  | float t => Binary t
  | bool => Bool
  | char => Char
  | text => String
  | list t => List t.Element
  | pair a b => a.Element × b.Element
  | cellMap => CellMap
  | table => DataTable
  | rows k => List (RecordKind.Record k)

/-- The name of the type in messages and listings. -/
def name : ValueType κ → String
  | int t => t.name
  | float t => t.name
  | bool => "bool"
  | char => "char"
  | text => "alloc::string::String"
  | list t => "alloc::vec::Vec<" ++ t.name ++ ">"
  | pair a b => "(" ++ a.name ++ ", " ++ b.name ++ ")"
  | cellMap =>
    "std::collections::hash::map::HashMap<alloc::string::String, alloc::string::String>"
  | table => "step_expression::datatable::table::DataTable"
  | rows k => "step_expression::datatable::rows::Rows<" ++ RecordKind.name k ++ ">"

end ValueType

/-- A value with its type. -/
structure Value (κ : Type) [RecordKind κ] where
  type : ValueType κ
  element : type.Element

namespace Value

variable {κ : Type} [RecordKind κ] [DecidableEq κ]

/-- The element, if the value is of the type. -/
def get? (v : Value κ) (t : ValueType κ) : Option t.Element :=
  if h : v.type = t then some (h ▸ v.element) else none

/-- The element, or the fault that the value is not of the type. -/
def get (v : Value κ) (t : ValueType κ) : Except ConversionError t.Element :=
  match v.get? t with
  | some x => .ok x
  | none => .error (.typeMismatch t.name)

end Value

end StepPhrase
