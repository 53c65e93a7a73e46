import StepPhrase.Log
import StepPhrase.Text.Ascii
import StepPhrase.Text.Quoted
import StepPhrase.Unicode.Blank

/-! Whether unknown hints are faults, as the process and its environment decide. -/
namespace StepPhrase

open Text Unicode

structure Strictness where
  /-- What the process set, which comes before the environment. -/
  forced : Option Bool := none
  /-- The value of the environment variable. -/
  environment : Option String := none

namespace Strictness

def variableName : String := "STEP_EXPRESSION_STRICT_PARAMETER_TYPES"

/-- Reads a word for on or off, in any case and with white space around it. -/
def readWord? (value : String) : Option Bool :=
  let word := asciiLower (trim value)
  if ["1", "true", "yes", "on"].contains word then some true
  else if ["0", "false", "no", "off"].contains word then some false
  else none

def ignored (value : String) : String :=
  "ignoring unrecognised " ++ variableName ++ " value " ++ quoted value

/-- Whether types are strict now. A variable with an unknown word counts as unset. -/
def strict (s : Strictness) : Logged Bool :=
  match s.forced, s.environment with
  | some b, _ => pure b
  | none, none => pure false
  | none, some value =>
    match readWord? value with
    | some b => pure b
    | none => do
      Logged.record .warn (ignored value)
      return false

end Strictness

end StepPhrase
