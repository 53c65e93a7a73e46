import StepPhrase.Suite.Transform

/-! Row types that are given as a list of accesses to the row. -/
namespace StepPhrase.Suite

inductive Access where
  | number
  | index
  | length
  | empty
  | cells
  | cell (i : Nat)
  | column (name : String)
  | parse (i : Nat) (read : String → Except Cause SuiteValue)
  | parseColumn (name : String) (read : String → Except Cause SuiteValue)

/-- What an access gives. -/
inductive Answer where
  | number (n : Nat)
  | flag (b : Bool)
  | text (s : String)
  | texts (s : List String)
  | value (v : SuiteValue)

def Access.run (r : Row) : Access → Except TableError Answer
  | number => .ok (.number r.rowNumber)
  | index => .ok (.number r.index)
  | length => .ok (.number r.cells.length)
  | empty => .ok (.flag r.cells.isEmpty)
  | cells => .ok (.texts r.cells)
  | cell i => (r.cell i).map .text
  | column name => (r.column name).map .text
  | parse i read => (r.parse i read).map .value
  | parseColumn name read => (r.parseColumn name read).map .value

/-- Runs the accesses in order on each row; the first that fails is the fault. -/
def scriptReader (header : Bool) (script : List Access) : RowReader (List Answer) :=
  ⟨header, fun r => script.mapM (·.run r)⟩

end StepPhrase.Suite
