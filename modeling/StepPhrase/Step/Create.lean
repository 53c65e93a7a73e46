import StepPhrase.Step.Basic

/-! Building steps from patterns and the conversions asked for. -/
namespace StepPhrase

open Text

variable {κ : Type} [RecordKind κ] [DecidableEq κ]

/-- How the doc-string or table of a step is converted. -/
inductive ArgumentConversion (κ : Type) where
  /-- Doc-strings stay texts, and rows become a table. -/
  | identity
  /-- The registry's converter to the type is used. -/
  | structural (type : ValueType κ) (transposed : Bool)
  /-- The table type of that name is used, as it is defined when the argument is converted. -/
  | named (name : String) (transposed : Bool)

namespace ArgumentConversion

def describe : ArgumentConversion κ → String
  | identity => "Identity"
  | structural type transposed =>
    "Structural \x7b ty: StructuralType(" ++ quoted type.name ++ "), transpose: " ++
      toString transposed ++ " \x7d"
  | named name transposed =>
    "Named \x7b name: " ++ quoted name ++ ", transpose: " ++ toString transposed ++ " \x7d"

def resolved (name target : String) : String :=
  "resolved data table type `" ++ name ++ "` producing `" ++ target ++ "`"

/-- The table type that now has the name. -/
def resolve (r : Registry κ) (name : String) : Logged (Except StepError (TableType κ)) :=
  match r.tableType? name with
  | none => pure (.error (.undefinedTableType name))
  | some t => do
    Logged.record .debug (resolved name t.target.name)
    return .ok t

/-- Converts a table through the registry, which it is bound to for that. -/
def convertBound (r : Registry κ) (t : DataTable) (type : ValueType κ) (transposed : Bool) :
    Except StepError (Value κ) :=
  (t.bind.convert r.convert type transposed).mapError .conversionFailure

/-- Converts rows with the table type that now has the name. -/
def convertNamed (r : Registry κ) (name : String) (rows : List (List String)) :
    Logged (Except StepError (Value κ)) := do
  return (← resolve r name).bind fun t => (t.value rows).mapError .conversionFailure

/-- What becomes of a doc-string. It counts as a table of one cell, but stays text in an identity. -/
def docString (c : ArgumentConversion κ) (r : Registry κ) (text : String) :
    Logged (Except StepError (Value κ)) :=
  match c with
  | identity => pure (.ok ⟨.text, text⟩)
  | structural type transposed => pure (convertBound r (.singleCell text) type transposed)
  | named name _ => convertNamed r name (DataTable.singleCell text).cells

/-- What becomes of the rows of a table. That they are uneven is found first. -/
def table (c : ArgumentConversion κ) (r : Registry κ) (rows : List (List String)) :
    Logged (Except StepError (Value κ)) :=
  match DataTable.ofRows rows with
  | .error e => pure (.error (.malformedTable e))
  | .ok t =>
    match c with
    | identity => pure (.ok ⟨.table, t⟩)
    | structural type transposed => pure (convertBound r t type transposed)
    | named name transposed => convertNamed r name (t.oriented transposed).cells

end ArgumentConversion

namespace Step

def compiled (pattern : String) (c : ArgumentConversion κ) : String :=
  "compiled step expression " ++ quoted pattern ++ " with " ++ c.describe

/-- The step of a pattern. The name of a named conversion must not be empty. -/
def create (r : Registry κ) (s : Strictness) (pattern : String) (c : ArgumentConversion κ) :
    Logged (Except StepError (Step κ)) :=
  if c matches .named "" _ then pure (.error (.invalidArgument .emptyTypeName))
  else do
    match ← r.compile s pattern with
    | .error e => return .error (.malformedExpression e)
    | .ok expression => do
      Logged.record .debug (compiled pattern c)
      return .ok ⟨expression, c.docString, c.table⟩

/-- The step of a pattern whose arguments are left as they are. -/
def createIdentity (r : Registry κ) (s : Strictness) (pattern : Option String) :
    Logged (Except StepError (Step κ)) :=
  match pattern with
  | none => pure (.error (.invalidArgument .noPattern))
  | some pattern => create r s pattern .identity

/-- The step of a pattern whose arguments become values of the type. -/
def createTransposable (r : Registry κ) (s : Strictness) (pattern : Option String)
    (type : Option (ValueType κ)) (transposed : Bool) : Logged (Except StepError (Step κ)) :=
  match pattern, type with
  | none, _ => pure (.error (.invalidArgument .noPattern))
  | _, none => pure (.error (.invalidArgument .noType))
  | some pattern, some type => create r s pattern (.structural type transposed)

def createTyped (r : Registry κ) (s : Strictness) (pattern : Option String)
    (type : Option (ValueType κ)) : Logged (Except StepError (Step κ)) :=
  createTransposable r s pattern type false

/-- The step of a pattern whose arguments are converted by the table type of the name. -/
def createNamed (r : Registry κ) (s : Strictness) (pattern : Option String)
    (name : Option String) (transposed : Bool) : Logged (Except StepError (Step κ)) :=
  match pattern, name with
  | none, _ => pure (.error (.invalidArgument .noPattern))
  | _, none => pure (.error (.invalidArgument .noType))
  | some pattern, some name => create r s pattern (.named name transposed)

end Step

end StepPhrase
