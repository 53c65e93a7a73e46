import StepPhrase.Regex.Look

/-! Regular expressions as trees in a normal form. The functions that build trees keep it: literals
that meet are one literal, single characters are literals, alternatives of characters are a set,
and items that all alternatives begin with stand before the choice. -/
namespace StepPhrase.Regex

open StepPhrase.Unicode

inductive Node where
  | empty
  /-- The characters one after the other; there is at least one. -/
  | literal (text : List Char)
  /-- One character of the set. `unicode` tells whether it was written where classes hold characters
  of all scripts. -/
  | set (unicode : Bool) (s : CharSet)
  | look (l : Look)
  | cat (a b : Node)
  | alt (a b : Node)
  /-- Parentheses that capture. -/
  | group (index : Nat) (body : Node)
  /-- At least `min` and at most `max` times, as often as possible if `greedy`. -/
  | times (min : Nat) (max : Option Nat) (greedy : Bool) (body : Node)
  deriving DecidableEq

namespace Node

/-- What nothing matches. -/
def fail : Node := set false .empty

/-- One character of the set. -/
def ofSet (unicode : Bool) (s : CharSet) : Node :=
  if s.isEmpty then fail
  else match s.single? with
    | some c => literal [c]
    | none => set unicode s

/-- The items of a concatenation, or else the node itself, last first in front of others. -/
def itemsOnto (before : List Node) : Node → List Node
  | cat a b => itemsOnto (a :: before) b
  | n => n :: before

def items (n : Node) : List Node := (n.itemsOnto []).reverse

/-- Puts an item in front of others. An empty one vanishes, and literals that meet are joined. -/
def consItem (rest : List Node) (n : Node) : List Node :=
  match n, rest with
  | empty, rest => rest
  | literal s, literal t :: rest => literal (s ++ t) :: rest
  | n, rest => n :: rest

def ofItems (items : List Node) : Node :=
  match items.reverse with
  | [] => empty
  | last :: before => before.foldl (fun n a => cat a n) last

/-- The concatenation of nodes given last first. -/
def concatReversed (nodes : List Node) : Node :=
  ofItems (nodes.foldl (fun rest n => (n.itemsOnto []).foldl consItem rest) [])

def concat (nodes : List Node) : Node := concatReversed nodes.reverse

/-- The alternatives of a choice, or else the node itself, in front of others. -/
def branchesOnto : Node → List Node → List Node
  | alt a b, rest => a :: branchesOnto b rest
  | n, rest => n :: rest

/-- Two or more alternatives as one node. -/
def ofBranches (branches : List Node) : Node :=
  match branches.reverse with
  | [] => fail
  | last :: before => before.foldl (fun n a => alt a n) last

/-- The only character of a literal. -/
def char? : Node → Option (Nat × Nat)
  | literal [c] => some (c.toNat, c.toNat)
  | _ => none

def set? : Node → Option CharSet
  | set _ s => some s
  | _ => none

/-- The items of a concatenation of two or more. -/
def cat? : Node → Option (List Node)
  | cat a b => some (cat a b).items
  | _ => none

/-- The length of the common beginning of two lists. -/
def commonLength {α : Type} [DecidableEq α] : List α → List α → Nat
  | a :: as, b :: bs => if a = b then commonLength as bs + 1 else 0
  | _, _ => 0

/-- Adds to `n` an upper bound on how often alternatives that begin with this one can be split
after a common beginning. -/
def spine : Node → Nat → Nat
  | cat a b, n => b.spine (a.spine n + 1)
  | alt a _, n => a.spine n
  | _, n => n

/-- The choice between alternatives, none of which is one itself. What all of them begin with is
put before the choice. The first argument bounds how often. -/
def chooseWithin : Nat → List Node → Node
  | fuel, branches =>
    match branches with
    | [n] => n
    | branches =>
      match branches.mapM char? with
      | some chars => ofSet true (.ofRanges chars)
      | none =>
        match branches.mapM set? with
        | some sets => ofSet true (.unions sets)
        | none =>
          match fuel, branches.mapM cat? with
          | fuel + 1, some (first :: others) =>
            match others.foldl (fun n b => Nat.min n (commonLength first b)) first.length with
            | 0 => ofBranches branches
            | n =>
              let suffixes := (first :: others).map fun b => concat (b.drop n)
              concat (first.take n ++ [chooseWithin fuel (suffixes.foldr branchesOnto [])])
          | _, _ => ofBranches branches

/-- The choice between alternatives given last first. -/
def chooseReversed (nodes : List Node) : Node :=
  match nodes.foldl (fun rest n => n.branchesOnto rest) [] with
  | [] => fail
  | first :: others => chooseWithin (first.spine 1) (first :: others)

/-- Whether only the empty text can match. -/
def onlyEmpty : Node → Bool
  | empty | look _ => true
  | literal _ | set .. => false
  | cat a b | alt a b => a.onlyEmpty && b.onlyEmpty
  | group _ a => a.onlyEmpty
  | times _ max _ a => max.isSome && a.onlyEmpty

/-- The body at least `min` and at most `max` times. A body that is always empty counts once. -/
def repeated (min : Nat) (max : Option Nat) (greedy : Bool) (body : Node) : Node :=
  let (min, max) :=
    if body.onlyEmpty then (Nat.min min 1, some (Nat.min (max.getD 1) 1)) else (min, max)
  match min, max with
  | 0, some 0 => empty
  | 1, some 1 => body
  | min, max => times min max greedy body

/-- The least number of characters of a match, if none of the ways to match is excluded. -/
def minLength : Node → Option Nat
  | empty | look _ => some 0
  | literal s => some s.length
  | set _ s => if s.isEmpty then none else some 1
  | cat a b => do return (← a.minLength) + (← b.minLength)
  | alt a b => do return Nat.min (← a.minLength) (← b.minLength)
  | group _ a => a.minLength
  | times min _ _ a => a.minLength.map (· * min)

/-- Whether a loop has to reckon with empty rounds. -/
def maybeEmpty (n : Node) : Bool := !n.minLength.any (0 < ·)

/-- The greatest of `n` and the indices of groups. -/
def maxGroup (n : Nat) : Node → Nat
  | empty | literal _ | set .. | look _ => n
  | cat a b | alt a b => b.maxGroup (a.maxGroup n)
  | group index a => a.maxGroup (Nat.max n index)
  | times _ _ _ a => a.maxGroup n

end Node

end StepPhrase.Regex
