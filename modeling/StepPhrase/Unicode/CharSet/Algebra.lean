import StepPhrase.Unicode.CharSet

/-! Unions, intersections, differences and complements of sets of characters. Code points of
surrogates are no characters: the ends of new intervals step over them. -/
namespace StepPhrase.Unicode.CharSet

def greatest : Nat := 0x10FFFF

/-- The character after `n`. -/
def next (n : Nat) : Nat := if n = 0xD7FF then 0xE000 else n + 1

/-- The character before `n`. -/
def previous (n : Nat) : Nat := if n = 0xE000 then 0xD7FF else n - 1

def empty : CharSet := ⟨[]⟩

/-- All characters. -/
def any : CharSet := ⟨[(0, greatest)]⟩

def range (lo hi : Nat) : CharSet := ⟨[(lo, hi)]⟩

def char (c : Char) : CharSet := range c.toNat c.toNat

/-- Puts an interval in front of intervals that start no lower, and joins it with those that it
meets or touches. -/
def joinTo (lo hi : Nat) : List (Nat × Nat) → List (Nat × Nat)
  | [] => [(lo, hi)]
  | (a, b) :: rest =>
    if a ≤ hi + 1 then joinTo lo (Nat.max hi b) rest else (lo, hi) :: joinTo a b rest

/-- Intervals with ascending starts, joined where they meet or touch. -/
def join : List (Nat × Nat) → List (Nat × Nat)
  | [] => []
  | (lo, hi) :: rest => joinTo lo hi rest

/-- Puts `r` into the list in the order of starts, and what follows `r` by means of `more`. -/
def mergeInto (r : Nat × Nat) (more : List (Nat × Nat) → List (Nat × Nat)) :
    List (Nat × Nat) → List (Nat × Nat)
  | [] => r :: more []
  | x :: xs => if r.1 ≤ x.1 then r :: more (x :: xs) else x :: mergeInto r more xs

/-- Two lists with ascending starts as one. -/
def merge : List (Nat × Nat) → List (Nat × Nat) → List (Nat × Nat)
  | [] => fun ys => ys
  | x :: xs => mergeInto x (merge xs)

def union (s t : CharSet) : CharSet := ⟨join (merge s.ranges t.ranges)⟩

/-- Neighbours united. -/
def pairwise : List CharSet → List CharSet
  | s :: t :: rest => s.union t :: pairwise rest
  | rest => rest

/-- The union of the sets, by rounds that halve their number. The first argument bounds the
rounds. -/
def unionWithin : Nat → List CharSet → CharSet
  | _, [] => empty
  | _, [s] => s
  | 0, s :: rest => rest.foldl union s
  | fuel + 1, sets => unionWithin fuel (pairwise sets)

def unions (sets : List CharSet) : CharSet := unionWithin sets.length sets

/-- The set of intervals in any order. -/
def ofRanges (ranges : List (Nat × Nat)) : CharSet :=
  unions (ranges.map fun (lo, hi) => range lo hi)

/-- The parts of the intervals between `lo` and `hi`. -/
def clip (lo hi : Nat) : List (Nat × Nat) → List (Nat × Nat)
  | [] => []
  | (a, b) :: rest =>
    if hi < a then []
    else if b < lo then clip lo hi rest
    else (Nat.max lo a, Nat.min hi b) :: clip lo hi rest

def inter (s t : CharSet) : CharSet := ⟨s.ranges.flatMap fun (lo, hi) => clip lo hi t.ranges⟩

/-- What is left between `lo` and `hi` without the intervals. -/
def cut (lo hi : Nat) : List (Nat × Nat) → List (Nat × Nat)
  | [] => [(lo, hi)]
  | (a, b) :: rest =>
    if b < lo then cut lo hi rest
    else if hi < a then [(lo, hi)]
    else
      (if lo < a then [(lo, previous a)] else []) ++ if b < hi then cut (next b) hi rest else []

def diff (s t : CharSet) : CharSet := ⟨s.ranges.flatMap fun (lo, hi) => cut lo hi t.ranges⟩

def symmDiff (s t : CharSet) : CharSet := (s.union t).diff (s.inter t)

/-- The interval between two characters in either order. -/
def between (m n : Nat) : Nat × Nat := if m ≤ n then (m, n) else (n, m)

/-- The gaps after an interval that ends with `last`. A gap of nothing but surrogates is given as
the two characters around it. -/
def gapsAfter (last : Nat) : List (Nat × Nat) → List (Nat × Nat)
  | [] => if last < greatest then [(next last, greatest)] else []
  | (a, b) :: rest => between (next last) (previous a) :: gapsAfter b rest

/-- The characters outside the set. -/
def compl (s : CharSet) : CharSet :=
  match s.ranges with
  | [] => any
  | (a, b) :: rest => ⟨(if 0 < a then [(0, previous a)] else []) ++ gapsAfter b rest⟩

def isEmpty (s : CharSet) : Bool := s.ranges.isEmpty

/-- The only character of the set. -/
def single? (s : CharSet) : Option Char :=
  match s.ranges with
  | [(lo, hi)] => if lo = hi then some (Char.ofNat lo) else none
  | _ => none

/-- The number of intervals. -/
def size (s : CharSet) : Nat := s.ranges.length

end StepPhrase.Unicode.CharSet
