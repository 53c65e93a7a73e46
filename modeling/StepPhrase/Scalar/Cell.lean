import StepPhrase.Error
import StepPhrase.Scalar.Binary
import StepPhrase.Scalar.Integer
import StepPhrase.Unicode.Blank

/-! Readers for the texts of cells and captures. -/
namespace StepPhrase.Cell

open Text Unicode

variable {α : Type}

def scalar (x : Except ScalarError α) : Except Cause α := x.mapError .scalar

def int (t : IntType) (s : String) : Except Cause (Bounded t) := scalar (Bounded.read t s)

def float (t : FloatType) (s : String) : Except Cause (Binary t) := scalar (Binary.read t s)

/-- Reads `true` or `false`. -/
def bool (s : String) : Except Cause Bool :=
  if s = "true" then .ok true
  else if s = "false" then .ok false
  else .error (.scalar .notBool)

/-- Reads a text of one character. -/
def char (s : String) : Except Cause Char :=
  match s.toList with
  | [] => .error (.scalar .noChar)
  | [c] => .ok c
  | _ => .error (.scalar .manyChars)

def text (s : String) : Except Cause String := .ok s

/-- Reads a truth value in any case: `yes`, `y`, `true` or `1`, `no`, `n`, `false` or `0`. -/
def truth (s : String) : Except Cause Bool :=
  let word := asciiLower (trim s)
  if ["yes", "y", "true", "1"].contains word then .ok true
  else if ["no", "n", "false", "0"].contains word then .ok false
  else .error (.truthValue word)

/-- Reads what is left without the white space around it. -/
def trimmed (read : String → Except Cause α) (s : String) : Except Cause α :=
  (read (trim s)).mapError .trimmed

end StepPhrase.Cell
