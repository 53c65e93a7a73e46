/-! Sets of code points as ascending lists of closed intervals. -/
namespace StepPhrase.Unicode

/-- The intervals are ascending, and none meets or touches the next. -/
structure CharSet where
  ranges : List (Nat × Nat)
  deriving DecidableEq, Repr

namespace CharSet

/-- Whether `n` lies in one of the ascending intervals; the search ends at the first that starts
above `n`. -/
def covers (n : Nat) : List (Nat × Nat) → Bool
  | [] => false
  | (lo, hi) :: rest => if n < lo then false else if n ≤ hi then true else covers n rest

def mem (s : CharSet) (n : Nat) : Bool := covers n s.ranges

def contains (s : CharSet) (c : Char) : Bool := s.mem c.toNat

/-- An interval list half read: the intervals so far (last first), the start of the interval being
read, and the digits read since. -/
structure Reading where
  found : List (Nat × Nat) := []
  low : Option Nat := none
  digits : Option Nat := none

def hexDigit? (c : Char) : Option Nat :=
  if '0' ≤ c ∧ c ≤ '9' then some (c.toNat - '0'.toNat)
  else if 'A' ≤ c ∧ c ≤ 'F' then some (c.toNat - 'A'.toNat + 10)
  else none

def Reading.close (r : Reading) : Reading :=
  match r.digits with
  | none => r
  | some n => { found := (r.low.getD n, n) :: r.found }

def Reading.step (r : Reading) (c : Char) : Reading :=
  match hexDigit? c with
  | some d => { r with digits := some (r.digits.getD 0 * 16 + d) }
  | none => if c = '-' then { r with low := r.digits, digits := none } else r.close

/-- The set written as hexadecimal intervals with blanks between them, such as `41-5A AA`. -/
def ofText (text : String) : CharSet :=
  ⟨(text.toList.foldl Reading.step {}).close.found.reverse⟩

end CharSet

end StepPhrase.Unicode
