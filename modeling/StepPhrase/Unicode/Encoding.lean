import StepPhrase.Unicode.CharSet

/-! The UTF-8 encodings of the members of a set, as sequences of byte intervals. -/
namespace StepPhrase.Unicode.Encoding

/-- A byte interval for each byte. It stands for all choices of one byte from each. -/
abbrev Sequence := List (Nat × Nat)

/-- The bytes after the first count from here. -/
def further : Nat := 0x80

/-- Sequences for the numbers from `lo` to `hi`, ascending. The first byte counts from `base`, and
after it come as many bytes of six bits as the second argument says. -/
def sequences (base : Nat) : Nat → Nat → Nat → List Sequence
  | 0, lo, hi => [[(base + lo, base + hi)]]
  | n + 1, lo, hi =>
    let unit := 1 <<< (6 * (n + 1))
    let first := lo / unit
    let last := hi / unit
    let lead (byte : Nat) (rest : List Sequence) : List Sequence :=
      rest.map ((base + byte, base + byte) :: ·)
    if first = last then lead first (sequences further n (lo % unit) (hi % unit))
    else
      let begun := lo % unit != 0
      let unfinished := hi % unit != unit - 1
      let start := if begun then first + 1 else first
      let upTo := if unfinished then last - 1 else last
      (if begun then lead first (sequences further n (lo % unit) (unit - 1)) else []) ++
      (if start ≤ upTo then
        [(base + start, base + upTo) :: List.replicate (n + 1) (further, further + 63)]
        else []) ++
      if unfinished then lead last (sequences further n 0 (hi % unit)) else []

/-- Where encodings have one form: the first and last code point, the base of the first byte, and
the number of further bytes. -/
def forms : List (Nat × Nat × Nat × Nat) := [
  (0, 0x7F, 0, 0),
  (0x80, 0x7FF, 0xC0, 1),
  (0x800, 0xD7FF, 0xE0, 2),
  (0xE000, 0xFFFF, 0xE0, 2),
  (0x10000, 0x10FFFF, 0xF0, 3)]

/-- The sequences for the set, ascending. -/
def ofSet (s : CharSet) : List Sequence :=
  s.ranges.flatMap fun (lo, hi) => forms.flatMap fun (first, last, base, n) =>
    let lo := Nat.max lo first
    let hi := Nat.min hi last
    if lo ≤ hi then sequences base n lo hi else []

end StepPhrase.Unicode.Encoding
