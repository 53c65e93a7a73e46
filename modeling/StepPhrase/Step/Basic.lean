import StepPhrase.Registry

/-! Steps: expressions together with the conversions of their arguments. -/
namespace StepPhrase

variable {κ : Type} [RecordKind κ] [DecidableEq κ]

/-- A step definition's pattern, and what becomes of a doc-string or table below the step. The
registry is the one in force when the argument is converted. -/
structure Step (κ : Type) [RecordKind κ] where
  expression : Expression κ
  docString : Registry κ → String → Logged (Except StepError (Value κ))
  table : Registry κ → List (List String) → Logged (Except StepError (Value κ))

namespace Step

def pattern (s : Step κ) : String := s.expression.pattern

/-- The arguments of a text, if the step matches it. -/
def match? (s : Step κ) (text : String) : Except StepError (Option (List (Argument κ))) :=
  (s.expression.match? text).mapError fun e => .conversionFailure (.parameter e)

/-- The element of a value of the type. -/
def elementOf (type : ValueType κ) (v : Except StepError (Value κ)) :
    Except StepError type.Element :=
  v.bind fun v => (v.get type).mapError .conversionFailure

/-- Converts a doc-string to an element of the type. -/
def docStringAs (s : Step κ) (r : Registry κ) (type : ValueType κ) (text : String) :
    Logged (Except StepError type.Element) := do
  return elementOf type (← s.docString r text)

/-- Converts rows to an element of the type. -/
def tableAs (s : Step κ) (r : Registry κ) (type : ValueType κ) (rows : List (List String)) :
    Logged (Except StepError type.Element) := do
  return elementOf type (← s.table r rows)

end Step

end StepPhrase
