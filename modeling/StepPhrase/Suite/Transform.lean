import StepPhrase.Step.Create
import StepPhrase.Suite.Record

/-! Parameter types, table types, converters and steps for trying the registry out. -/
namespace StepPhrase.Suite

open Text

abbrev SuiteType := ValueType RecordType

abbrev SuiteValue := Value RecordType

/-- Reads texts of the types that have a reader. -/
def readerOf? : SuiteType → Option (String → Except Cause SuiteValue)
  | .int t => some fun s => (Cell.int t s).map fun n => ⟨.int t, n⟩
  | .float t => some fun s => (Cell.float t s).map fun x => ⟨.float t, x⟩
  | .bool => some fun s => (Cell.bool s).map fun b => ⟨.bool, b⟩
  | .char => some fun s => (Cell.char s).map fun c => ⟨.char, c⟩
  | .text => some fun s => .ok ⟨.text, s⟩
  | _ => none

/-- The text before and after the first two points. -/
def splitRange? : List Char → Option (List Char × List Char)
  | '.' :: '.' :: rest => some ([], rest)
  | [] => none
  | c :: rest => (splitRange? rest).map fun (a, b) => (c :: a, b)

def readRange (s : String) : Except Cause SuiteValue :=
  match splitRange? s.toList with
  | none => .error (.reason "missing `..`")
  | some (low, high) => do
    let low ← Cell.int .u32 (String.ofList low)
    let high ← Cell.int .u32 (String.ofList high)
    return ⟨.pair (.int .u32) (.int .u32), (low, high)⟩

/-- What a parameter type makes of a captured text. -/
inductive ParameterTransform where
  | text
  | upper
  /-- The length in bytes. -/
  | bytes
  /-- Whether the text is `on`. -/
  | on
  | fail
  /-- Two numbers with two points between them. -/
  | range
  | read (reader : String → Except Cause SuiteValue)

def ParameterTransform.run : ParameterTransform → String → Except Cause SuiteValue
  | text, s => .ok ⟨.text, s⟩
  | upper, s => .ok ⟨.text, asciiUpper s⟩
  | bytes, s => .ok ⟨.int .usize, .ofNat .usize s.utf8ByteSize⟩
  | on, s => .ok ⟨.bool, s == "on"⟩
  | fail, s => .error (.reason ("rejected " ++ s))
  | range, s => readRange s
  | read reader, s => reader s

def joinRows (rows : List (List String)) : String :=
  "|".intercalate (rows.map fun row => ",".intercalate row)

def sizeOf (n : Nat) : Bounded .usize := .ofNat .usize n

/-- The sum of the cells of a row. -/
def sumRow (row : List String) : Except Cause (Bounded .u64) := do
  let cells ← row.mapM (Cell.int .u32)
  return .ofNat .u64 (cells.foldl (fun n cell => n + cell.val.toNat) 0)

def sums (rows : List (List String)) : Except Cause (List (Bounded .u64)) := rows.mapM sumRow

/-- What a table type makes of raw rows. -/
inductive TableTransform where
  | joined
  | count
  /-- The number of rows and the width of the first. -/
  | shape
  | cells
  | sums
  | fail
  | records (k : RecordType)

def TableTransform.tableType (name : String) : TableTransform → TableType RecordType
  | joined => ⟨name, .text, fun rows => .ok (joinRows rows)⟩
  | count => ⟨name, .int .usize, fun rows => .ok (sizeOf rows.length)⟩
  | shape => ⟨name, .pair (.int .usize) (.int .usize), fun rows =>
      .ok (sizeOf rows.length, sizeOf (widthOf rows))⟩
  | cells => ⟨name, .list (.list .text), .ok⟩
  | sums => ⟨name, .list (.int .u64), Suite.sums⟩
  | fail => ⟨name, .text, fun rows =>
      .error (.reason ("refused " ++ toString rows.length ++ " rows"))⟩
  | records k => .records name k

inductive TableConverter where
  /-- The height of tables with three columns. -/
  | widthThree
  | joined
  /-- The first cell as a number. -/
  | first
  | fail
  /-- The rows of the transposed table, joined. -/
  | nested

/-- The texts of a row joined, for each row of the table, transposed if asked, as the registry
converts it. -/
def joinedRows (transposed : Bool) : Converter RecordType :=
  .ofTransform (.list .text) fun conversions t =>
    match t.convertTo conversions (.list (.list .text)) transposed with
    | .ok rows => .ok (rows.map fun row => "+".intercalate row)
    | .error e => .error (.conversion e)

def TableConverter.converter : TableConverter → Converter RecordType
  | widthThree => .ofTransform (.int .usize) fun _ t =>
      if t.width = 3 then .ok (sizeOf t.height) else .error (.reason "need three columns")
  | joined => .ofTransform .text fun _ t => .ok (joinRows t.cells)
  | first => .ofTransform (.int .u64) fun _ t => Cell.int .u64 ((t.cell? 0 0).getD "")
  | fail => .ofTransform .cellMap fun _ t =>
      .error (.reason ("no map from " ++ toString t.height ++ "x" ++ toString t.width))
  | nested => joinedRows true

/-- A step that counts the bytes of doc-strings and the rows of tables. -/
def countingStep (r : Registry RecordType) (s : Strictness) (pattern : String) :
    Logged (Except StepError (Step RecordType)) := do
  match ← r.compile s pattern with
  | .error e => return .error (.malformedExpression e)
  | .ok expression =>
    return .ok ⟨expression,
      fun _ text => pure (.ok ⟨.int .usize, sizeOf text.utf8ByteSize⟩),
      fun _ rows => pure (.ok ⟨.int .usize, sizeOf rows.length⟩)⟩

end StepPhrase.Suite
