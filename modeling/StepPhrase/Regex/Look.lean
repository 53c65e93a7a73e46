import StepPhrase.Regex.Class

/-! Assertions about the characters before and after a position. -/
namespace StepPhrase.Regex

open StepPhrase.Unicode

inductive Look where
  | textStart
  | textEnd
  | lineStart
  | lineEnd
  /-- Line starts and ends where `\r\n` ends a line as well as `\n` and `\r`. -/
  | crlfStart
  | crlfEnd
  | wordBoundary (word : CharSet)
  | notWordBoundary (word : CharSet)
  | wordStart (word : CharSet)
  | wordEnd (word : CharSet)
  | wordStartHalf (word : CharSet)
  | wordEndHalf (word : CharSet)
  deriving DecidableEq

/-- Whether the assertion holds after the character `before` and in front of `rest`. -/
def Look.holds (l : Look) (before : Option Char) (rest : List Char) : Bool :=
  let after := rest.head?
  let isWord (w : CharSet) (c : Option Char) : Bool := c.any w.contains
  match l with
  | textStart => before.isNone
  | textEnd => after.isNone
  | lineStart => before.isNone || before == some '\n'
  | lineEnd => after.isNone || after == some '\n'
  | crlfStart =>
    before.isNone || before == some '\n' || (before == some '\r' && after != some '\n')
  | crlfEnd =>
    after.isNone || after == some '\r' || (after == some '\n' && before != some '\r')
  | wordBoundary w => isWord w before != isWord w after
  | notWordBoundary w => isWord w before == isWord w after
  | wordStart w => !isWord w before && isWord w after
  | wordEnd w => isWord w before && !isWord w after
  | wordStartHalf w => !isWord w before
  | wordEndHalf w => !isWord w after

end StepPhrase.Regex
