import StepPhrase.Step.Create

/-! What registries, tables, steps and arguments look like when they are shown to a developer. -/
namespace StepPhrase

open Text

variable {κ : Type} [RecordKind κ]

def ParameterType.describe (t : ParameterType κ) : String :=
  "ParameterType \x7b name: " ++ quoted t.name ++ ", regex: " ++ quoted t.fragment ++ ", .. \x7d"

def TableType.describe (t : TableType κ) : String :=
  "DataTableType \x7b name: " ++ quoted t.name ++ ", target: " ++ quoted t.target.name ++
    ", .. \x7d"

def ValueType.describe (t : ValueType κ) : String := "StructuralType(" ++ quoted t.name ++ ")"

def DataTable.describe (t : DataTable) : String :=
  "DataTable \x7b cells: " ++ listed (t.cells.map fun row => listed (row.map quoted)) ++
    ", converter: " ++ toString t.binding.isSome ++ " \x7d"

def ExpressionConfig.describe (c : ExpressionConfig) : String :=
  "ExpressionConfig \x7b strict_parameter_types: " ++ toString c.strictParameterTypes ++ " \x7d"

def Registry.describe (r : Registry κ) : String :=
  let config := match r.config with
    | none => "None"
    | some c => "Some(" ++ c.describe ++ ")"
  "TypeRegistry \x7b table_types: " ++ listed (r.tableTypeNames.map quoted) ++ ", structural: " ++
    listed (r.converterNames.map quoted) ++ ", config: " ++ config ++ ", .. \x7d"

def Step.describe (s : Step κ) : String :=
  "StepExpression \x7b pattern: " ++ quoted s.pattern ++ ", .. \x7d"

def Argument.describe (a : Argument κ) : String :=
  "Argument \x7b name: " ++ quoted a.name ++ ", parameter_type: " ++ quoted a.parameterType ++
    ", text: " ++ quoted a.text ++ ", .. \x7d"

/-- Shows what a text was matched to. -/
def describeMatch : Option (List (Argument κ)) → String
  | none => "None"
  | some arguments => "Some(" ++ listed (arguments.map (·.describe)) ++ ")"

end StepPhrase
