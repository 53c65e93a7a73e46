import StepPhrase.Regex.Node

/-! Programs that match: instructions in a row, with the first ways to go on tried first. -/
namespace StepPhrase.Regex

open StepPhrase.Unicode

/-- Where not said otherwise, the next instruction follows. -/
inductive Instruction where
  /-- Reads the characters. -/
  | text (cs : List Char)
  /-- Reads a character of the set. -/
  | set (s : CharSet)
  | look (l : Look)
  /-- Notes the position. -/
  | save (slot : Nat)
  | jump (target : Nat)
  /-- Goes on at the first address, and should that fail, at the other. -/
  | split (first other : Nat)
  /-- Lets pass once at each position. A gate stands wherever ways meet, so that a loop ends that
  reads nothing. -/
  | gate (index : Nat)
  | accept

structure Program where
  code : Array Instruction := #[]
  /-- The number of gates. -/
  gates : Nat := 0

namespace Program

/-- The address of the next instruction to be added. -/
def size (p : Program) : Nat := p.code.size

def push (p : Program) (i : Instruction) : Program := { p with code := p.code.push i }

def pushGate (p : Program) : Program := { p.push (.gate p.gates) with gates := p.gates + 1 }

/-- A choice that tries `body` first if greedy and `exit` first if not. -/
def pushChoice (p : Program) (greedy : Bool) (body exit : Nat) : Program :=
  p.push (if greedy then .split body exit else .split exit body)

/-- Any number of rounds of a body that reads a character. -/
def star (body : Program → Program) (length : Nat) (greedy : Bool) (p : Program) : Program :=
  let start := p.size
  (body (p.pushGate.pushChoice greedy (start + 2) (start + length + 3))).push (.jump start)

/-- One round or more. -/
def plus (body : Program → Program) (greedy : Bool) (p : Program) : Program :=
  let start := p.size
  let p := body p.pushGate
  p.pushChoice greedy start (p.size + 1)

/-- Any number of rounds of a body that may read nothing: rounds one after the other, or none. Such
a round is entered before it is known to be empty, and its groups count. -/
def optionalPlus (body : Program → Program) (length : Nat) (greedy : Bool) (p : Program) :
    Program :=
  let start := p.size
  (plus body greedy (p.pushChoice greedy (start + 1) (start + length + 3))).pushGate

/-- At most `n` rounds. -/
def upTo (body : Program → Program) (length n : Nat) (greedy : Bool) (p : Program) : Program :=
  let exit := p.size + n * (length + 1)
  (n.repeat (fun p => body (p.pushChoice greedy (p.size + 1) exit)) p).pushGate

end Program

namespace Node

/-- The number of instructions for a node. -/
def length : Node → Nat
  | empty => 0
  | literal _ | set .. | look _ => 1
  | cat a b => b.length + a.length
  | alt a b => a.length + b.length + 3
  | group _ a => a.length + 2
  | times min (some max) _ a =>
    min * a.length + if min < max then (max - min) * (a.length + 1) + 1 else 0
  | times 0 none _ a => a.length + if a.maybeEmpty then 4 else 3
  | times (n + 1) none _ a => (n + 1) * a.length + 2

/-- Adds the instructions for the node to a program. -/
def emit : Node → Program → Program
  | empty, p => p
  | literal s, p => p.push (.text s)
  | set _ s, p => p.push (.set s)
  | look l, p => p.push (.look l)
  | cat a b, p => b.emit (a.emit p)
  | alt a b, p =>
    let other := p.size + a.length + 2
    let p := a.emit (p.push (.split (p.size + 1) other))
    (b.emit (p.push (.jump (other + b.length)))).pushGate
  | group index a, p => (a.emit (p.push (.save (2 * index)))).push (.save (2 * index + 1))
  | times min (some max) greedy a, p =>
    let p := min.repeat a.emit p
    if min < max then p.upTo a.emit a.length (max - min) greedy else p
  | times 0 none greedy a, p =>
    if a.maybeEmpty then p.optionalPlus a.emit a.length greedy else p.star a.emit a.length greedy
  | times (n + 1) none greedy a, p => (n.repeat a.emit p).plus a.emit greedy

/-- The program that accepts what the node matches. -/
def program (n : Node) : Program := (n.emit {}).push .accept

end Node

end StepPhrase.Regex
