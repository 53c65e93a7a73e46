import StepPhrase.Regex.Program

/-! Running programs on texts: the ways to match are tried in order of preference. -/
namespace StepPhrase.Regex

/-- A finite set of numbers, as the bits of one number. -/
structure NatSet where
  bits : Nat := 0

namespace NatSet

def contains (s : NatSet) (n : Nat) : Bool := s.bits.testBit n

def insert (s : NatSet) (n : Nat) : NatSet := ⟨s.bits ||| (1 <<< n)⟩

theorem contains_insert (s : NatSet) (n m : Nat) :
    (s.insert n).contains m = (decide (n = m) || s.contains m) := by
  simp only [contains, insert, Nat.testBit_or, Nat.one_shiftLeft, Nat.testBit_two_pow]
  exact Bool.or_comm ..

end NatSet

/-- A way to match half gone. -/
structure Thread where
  /-- The address of the next instruction. -/
  address : Nat
  /-- The number of characters read. -/
  position : Nat
  before : Option Char
  rest : List Char
  /-- The positions noted in slots, last first. -/
  slots : List (Nat × Nat) := []

namespace Thread

def goto (t : Thread) (address : Nat) : Thread := { t with address }

def next (t : Thread) : Thread := t.goto (t.address + 1)

/-- Reads the characters, if they come next. -/
def readText (t : Thread) : List Char → Option Thread
  | [] => some t
  | c :: cs =>
    match t.rest with
    | [] => none
    | d :: rest =>
      if c = d then
        readText { t with position := t.position + 1, before := some d, rest := rest } cs
      else none

/-- Reads a character of the set. -/
def readSet (t : Thread) (s : Unicode.CharSet) : Option Thread :=
  match t.rest with
  | [] => none
  | c :: rest =>
    if s.contains c then some { t with position := t.position + 1, before := some c, rest }
    else none

def save (t : Thread) (slot : Nat) : Thread :=
  { t with slots := (slot, t.position) :: t.slots }

end Thread

/-- The gates passed at each position. -/
abbrev Passed := Array NatSet

namespace Program

/-- Tries threads, each with all its ways to go on before the next one, until one accepts. Gives
that one, and the gates passed on the way. The first argument bounds the number of steps. -/
def explore (p : Program) : Nat → List Thread → Passed → Option Thread × Passed
  | 0, _, passed => (none, passed)
  | _, [], passed => (none, passed)
  | fuel + 1, t :: others, passed =>
    match p.code[t.address]? with
    | none => explore p fuel others passed
    | some (.text cs) =>
      match t.readText cs with
      | some t => explore p fuel (t.next :: others) passed
      | none => explore p fuel others passed
    | some (.set s) =>
      match t.readSet s with
      | some t => explore p fuel (t.next :: others) passed
      | none => explore p fuel others passed
    | some (.look l) =>
      if l.holds t.before t.rest then explore p fuel (t.next :: others) passed
      else explore p fuel others passed
    | some (.save slot) => explore p fuel ((t.save slot).next :: others) passed
    | some (.jump target) => explore p fuel (t.goto target :: others) passed
    | some (.split first other) =>
      explore p fuel (t.goto first :: t.goto other :: others) passed
    | some (.gate index) =>
      let gates := passed.getD t.position {}
      if gates.contains index then explore p fuel others passed
      else
        explore p fuel (t.next :: others) (passed.setIfInBounds t.position (gates.insert index))
    | some .accept => (some t, passed)

/-- The preferred match at the first position that has one: where it starts, and its thread. What
failed from an earlier position is not tried again. -/
def searchFrom (p : Program) (fuel position : Nat) (before : Option Char) (text : List Char)
    (passed : Passed) : Option (Nat × Thread) :=
  match p.explore fuel [{ address := 0, position, before, rest := text }] passed with
  | (some t, _) => some (position, t)
  | (none, passed) =>
    match text with
    | [] => none
    | c :: rest => searchFrom p fuel (position + 1) (some c) rest passed
termination_by structural text

/-- The preferred match at the first position of the text that has one. Between two gates no
instruction comes twice, so that the steps are bounded by the size of the program for each
position. -/
def search (p : Program) (text : List Char) : Option (Nat × Thread) :=
  p.searchFrom (2 * (p.size + 1) * (text.length + 1)) 0 none text
    (Array.replicate (text.length + 1) {})

end Program

end StepPhrase.Regex
