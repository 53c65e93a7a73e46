import StepPhrase.Regex.Basic

/-! What can be wrong with a step pattern. -/
namespace StepPhrase

/-- Faults of placeholders and braces. -/
inductive BraceFault where
  | invalidPlaceholder
  | unclosedPlaceholder
  | unmatchedClose
  | unbalanced
  deriving DecidableEq, Repr

def BraceFault.message : BraceFault → String
  | invalidPlaceholder => "invalid placeholder in step pattern"
  | unclosedPlaceholder => "missing closing '\x7d' for placeholder"
  | unmatchedClose => "unmatched closing brace '\x7d' in step pattern"
  | unbalanced => "unbalanced braces in step pattern"

/-- A fault at a byte of the pattern, and the placeholder it lies in. -/
structure PlaceholderError where
  fault : BraceFault
  position : Nat
  placeholder : Option String
  deriving DecidableEq, Repr

def PlaceholderError.message (e : PlaceholderError) : String :=
  let inside := match e.placeholder with
    | some name => " for placeholder `" ++ name ++ "`"
    | none => ""
  e.fault.message ++ inside ++ " at byte " ++ toString e.position ++ " (zero-based)"

inductive PatternError where
  | placeholder (e : PlaceholderError)
  | undefinedParameterType (name : String) (position : Nat)
  /-- The fragment of a parameter type is no regular expression of its own. -/
  | invalidFragment (name : String) (e : Regex.Error)
  | regex (e : Regex.Error)
  deriving DecidableEq, Repr

namespace PatternError

def message : PatternError → String
  | placeholder e => e.message
  | undefinedParameterType name position =>
    "undefined parameter type `" ++ name ++ "` at byte " ++ toString position ++ " (zero-based)"
  | invalidFragment name e =>
    "parameter type `" ++ name ++ "` has an invalid regular expression: " ++ e.message
  | regex e => e.message

/-- The messages of the causes, the nearest first. -/
def chain : PatternError → List String
  | invalidFragment _ e => [e.message]
  | _ => []

end PatternError

end StepPhrase
