import StepPhrase.Value

/-! Kinds of record for trying tables out. -/
namespace StepPhrase.Suite

/-- `person` and `stock` have a header, `label` and `point` have none. -/
inductive RecordType where
  | person
  | stock
  | label
  | point
  deriving DecidableEq

structure Person where
  name : String
  age : Bounded .u32

structure Stock where
  item : String
  count : Bounded .u32
  fragile : Bool

structure Point where
  x : Bounded .i32
  y : Bounded .i32

namespace RecordType

def Record : RecordType → Type
  | person => Person
  | stock => Stock
  | label => String
  | point => Point

def title : RecordType → String
  | person => "Person"
  | stock => "Stock"
  | label => "Label"
  | point => "Point"

def readPerson (r : Row) : Except TableError Person := do
  let name ← r.column "name"
  let age ← r.parseColumn "age" (Cell.trimmed (Cell.int .u32))
  return ⟨name, age⟩

def readStock (r : Row) : Except TableError Stock := do
  let item ← r.column "item"
  let count ← r.parseColumn "count" (Cell.trimmed (Cell.int .u32))
  let fragile ← r.parseColumn "fragile" Cell.truth
  return ⟨item, count, fragile⟩

def readPoint (r : Row) : Except TableError Point := do
  let x ← r.parse 0 (Cell.int .i32)
  let y ← r.parse 1 (Cell.int .i32)
  return ⟨x, y⟩

def reader : (t : RecordType) → RowReader t.Record
  | person => ⟨true, readPerson⟩
  | stock => ⟨true, readStock⟩
  | label => ⟨false, fun r => r.cell 0⟩
  | point => ⟨false, readPoint⟩

instance : RecordKind RecordType where
  Record := Record
  name t := "oracle_driver::user::" ++ t.title
  reader := reader

end RecordType

end StepPhrase.Suite
