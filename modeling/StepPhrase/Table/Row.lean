import StepPhrase.Table.Header

/-! Reading records from the rows of a table. -/
namespace StepPhrase

/-- A data row with its place in the table: `rowNumber` counts from one and counts the header,
`index` counts data rows from zero. -/
structure Row where
  header : Option Header
  rowNumber : Nat
  index : Nat
  cells : List String

namespace Row

variable {α : Type}

def cell (r : Row) (i : Nat) : Except TableError String :=
  match r.cells[i]? with
  | some text => .ok text
  | none => .error (.missingCell r.rowNumber i)

def position (r : Row) (name : String) : Except TableError Nat :=
  match r.header with
  | some h => h.position name r.rowNumber
  | none => .error .missingHeader

def column (r : Row) (name : String) : Except TableError String :=
  (r.position name).bind r.cell

/-- The name of a column in parentheses, if the table has a header. -/
def label (r : Row) (i : Nat) : String :=
  match r.header.bind (·.column? i) with
  | some name => " (" ++ name ++ ")"
  | none => ""

/-- Reads cell `i`. A fault names the row and the column, both counted from one. -/
def parse (r : Row) (i : Nat) (read : String → Except Cause α) : Except TableError α :=
  (r.cell i).bind fun text =>
    match read text with
    | .ok a => .ok a
    | .error cause => .error (.cellParse r.rowNumber (i + 1) (r.label i) cause)

def parseColumn (r : Row) (name : String) (read : String → Except Cause α) :
    Except TableError α :=
  (r.position name).bind fun i => r.parse i read

end Row

/-- How records of one kind are read from rows. -/
structure RowReader (α : Type) where
  requiresHeader : Bool := false
  read : Row → Except TableError α

namespace RowReader

variable {α : Type}

/-- Reads the rows in order; `first` is the number of the first. -/
def readRows (r : RowReader α) (header : Option Header) (first : Nat) (rows : List (List String)) :
    Except TableError (List α) :=
  rows.zipIdx.mapM fun (cells, i) => r.read ⟨header, first + i, i, cells⟩

/-- The records of all data rows. -/
def readTable (r : RowReader α) (t : DataTable) : Except TableError (List α) :=
  if r.requiresHeader then
    match t.cells with
    | [] => .error .missingHeader
    | names :: rows => (Header.ofRow names).bind fun h => r.readRows (some h) 2 rows
  else r.readRows none 1 t.cells

end RowReader

end StepPhrase
