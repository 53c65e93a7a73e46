import StepPhrase.Value

/-! Converters from whole tables to values. -/
namespace StepPhrase

variable {κ : Type} [RecordKind κ]

/-- Conversion of tables to values of any type, as the registry or a caller's converter has it. -/
abbrev Conversions (κ : Type) [RecordKind κ] :=
  DataTable → ValueType κ → Except ConversionError (Value κ)

/-- Converts a table, transposed if asked, by the conversions of what it is bound to. -/
def DataTable.convert (conversions : Conversions κ) (t : DataTable) (type : ValueType κ)
    (transposed : Bool) : Except ConversionError (Value κ) :=
  match t.binding with
  | some _ => conversions (t.oriented transposed) type
  | none => .error (.noConverter type.name)

/-- Converts a table to an element of the type. -/
def DataTable.convertTo [DecidableEq κ] (conversions : Conversions κ) (t : DataTable)
    (type : ValueType κ) (transposed : Bool) : Except ConversionError type.Element :=
  (t.convert conversions type transposed).bind fun v => v.get type

/-- A converter to one type, which may call for other conversions of the registry. -/
structure Converter (κ : Type) [RecordKind κ] where
  target : ValueType κ
  run : Conversions κ → DataTable → Except ConversionError target.Element

namespace Converter

/-- The table as it is. -/
def table : Converter κ := ⟨.table, fun _ t => .ok t⟩

def rows : Converter κ := ⟨.list (.list .text), fun _ t => .ok t.cells⟩

/-- All cells, row by row. -/
def cells : Converter κ := ⟨.list .text, fun _ t => .ok t.cells.flatten⟩

/-- The only cell. -/
def singleCell : Converter κ :=
  ⟨.text, fun _ t =>
    match t.cells with
    | [[cell]] => .ok cell
    | _ => .error (.notSingleCell t.height t.width)⟩

/-- The cells of a row by the names above them; of two under one name the later counts. -/
def namedCells (names row : List String) : CellMap := .ofList (names.zip row)

/-- A map for each row below the header. -/
def headerMaps : Converter κ :=
  ⟨.list .cellMap, fun _ t =>
    match t.cells with
    | [] => .ok []
    | names :: rows => .ok (rows.map (namedCells names))⟩

/-- Adds rows of a key and a value to a map that has none of the keys. -/
def addPairs (m : CellMap) : List (List String) → Except ConversionError CellMap
  | [] => .ok m
  | [key, value] :: rest =>
    if m.contains key then .error (.duplicateKey key) else addPairs (m.insert key value) rest
  | row :: _ => .error (.columnCount 2 row.length)

/-- The first column as keys, the second as values. -/
def pairs : Converter κ := ⟨.cellMap, fun _ t => addPairs ∅ t.cells⟩

/-- The converters that stand ready. -/
def builtin : List (Converter κ) := [table, rows, cells, singleCell, headerMaps, pairs]

/-- A caller's converter; its reasons are told with the type it was to make. -/
def ofTransform (target : ValueType κ)
    (f : Conversions κ → DataTable → Except Cause target.Element) : Converter κ :=
  ⟨target, fun conversions t => (f conversions t).mapError (.transform target.name)⟩

/-- Reads the records of a kind. -/
def ofRecords (k : κ) : Converter κ :=
  ⟨.rows k, fun _ t => ((RecordKind.reader k).readTable t).mapError .table⟩

end Converter

end StepPhrase
