import StepPhrase.Conversion.Converter
import StepPhrase.Conversion.TableType
import StepPhrase.Expression
import StepPhrase.Strictness
import StepPhrase.Text.Json

/-! The registry of parameter types, converters and table types. -/
namespace StepPhrase

variable {κ : Type} [RecordKind κ] [DecidableEq κ]

structure Registry (κ : Type) [RecordKind κ] where
  parameterTypes : ParameterTypes κ := .builtin
  /-- At most one converter for each target. -/
  converters : List (Converter κ) := Converter.builtin
  tableTypes : NameMap (TableType κ) := ∅
  /-- How patterns are compiled, if not as the process decides. -/
  config : Option ExpressionConfig := none
  /-- How deep converters can call for each other, which depends on the stack they run on. -/
  nesting : Nat := 255

namespace Registry

def expressionConfig (r : Registry κ) (s : Strictness) : Logged ExpressionConfig :=
  match r.config with
  | some config => pure config
  | none => do return ⟨← s.strict⟩

def compile (r : Registry κ) (s : Strictness) (pattern : String) :
    Logged (Except PatternError (Expression κ)) := do
  Expression.compile r.parameterTypes (← r.expressionConfig s) pattern

def defineParameterType (r : Registry κ) (t : ParameterType κ) : Logged (Registry κ) := do
  let (types, _) ← r.parameterTypes.define t
  return { r with parameterTypes := types }

def parameterTypeNames (r : Registry κ) : List String := r.parameterTypes.names

def redefinedTableType (name : String) : String :=
  "data table type `" ++ name ++ "` was redefined; conversions now use the new definition"

/-- Adds a table type, and gives the one it replaces. -/
def defineTableType (r : Registry κ) (t : TableType κ) :
    Logged (Registry κ × Option (TableType κ)) := do
  let replaced := r.tableTypes.get? t.name
  Logged.warnIf (replaced.map fun old => redefinedTableType old.name)
  return ({ r with tableTypes := r.tableTypes.insert t.name t }, replaced)

def tableType? (r : Registry κ) (name : String) : Option (TableType κ) := r.tableTypes.get? name

def tableTypeNames (r : Registry κ) : List String := r.tableTypes.names

def converter? (r : Registry κ) (type : ValueType κ) : Option (Converter κ) :=
  r.converters.find? (·.target = type)

def redefinedConverter (name : String) : String :=
  "structural conversion to `" ++ name ++ "` was redefined"

/-- Adds a converter in the place of the one to the same type. -/
def defineConverter (r : Registry κ) (c : Converter κ) : Logged (Registry κ) := do
  Logged.warnIf ((r.converter? c.target).map fun old => redefinedConverter old.target.name)
  return { r with converters := c :: r.converters.filter (·.target ≠ c.target) }

def defineRecords (r : Registry κ) (k : κ) : Logged (Registry κ) :=
  r.defineConverter (.ofRecords k)

def converterNames (r : Registry κ) : List String :=
  (r.converters.map (·.target.name)).mergeSort

/-- Converts a table by the converter to the type, whose calls for conversions are answered by the
given ones. -/
def convertThrough (r : Registry κ) (inner : Conversions κ) : Conversions κ := fun t type =>
  match r.converter? type with
  | none => .error (.noConverter type.name)
  | some c => (c.run inner t).map fun x => ⟨c.target, x⟩

/-- Converts a table where converters call for each other, down to the given depth. -/
def convertWithin (r : Registry κ) : Nat → Conversions κ
  | 0 => fun _ type => .error (.nestedTooDeep type.name)
  | depth + 1 => r.convertThrough (r.convertWithin depth)

def convert (r : Registry κ) : Conversions κ := r.convertThrough (r.convertWithin r.nesting)

/-- All that is registered, as JSON. -/
def dump (r : Registry κ) : String :=
  Json.object [
    ("table_types", Json.array (r.tableTypes.entries.map fun (_, t) =>
      Json.object [("name", Json.string t.name), ("target", Json.string t.target.name)])),
    ("structural_types", Json.array (r.converterNames.map Json.string)),
    ("parameter_types", Json.array (r.parameterTypeNames.map Json.string))]

end Registry

end StepPhrase
