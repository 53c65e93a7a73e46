import StepPhrase.Regex.Node
import StepPhrase.Unicode.Encoding

/-! The size in bytes of the two automata that read the UTF-8 encoding of a text forward and
backward. -/
namespace StepPhrase.Regex

open StepPhrase.Unicode

inductive Direction where
  | forward
  | backward

namespace Size

/-- Expressions with an automaton of more bytes are too big. -/
def limit : Nat := 10485760

def state : Nat := 32

/-- A way on from a state that has several, each for an interval of bytes. -/
def transition : Nat := 8

/-- A way on that reads nothing. -/
def alternative : Nat := 4

/-- A choice of two ways that read nothing. -/
def choice : Nat := state + 2 * alternative

/-- The sequences after their first intervals, one list for each of these. -/
def branches (seqs : List Encoding.Sequence) : List (List Encoding.Sequence) :=
  (seqs.splitBy fun a b => a.head? == b.head?).map (·.map List.tail)

/-- What is left to read in each state on the way through the sequences, each once. The first
argument bounds the bytes. -/
def remainders : Nat → List (List Encoding.Sequence) → List (List Encoding.Sequence)
  | 0, _ => []
  | n + 1, level =>
    let next := level.flatMap fun seqs => (branches seqs).filter (· != [[]])
    (level ++ remainders n next.eraseDups).eraseDups

/-- A set read forward: sequences share their states as far as what is left to read agrees. -/
def forwardSet (seqs : List Encoding.Sequence) : Nat :=
  (remainders 4 [seqs]).foldl (fun n rest => n + state + transition * (branches rest).length) state

/-- A set read backward: sequences share the states of the bytes with which they begin. -/
def backwardSet : Encoding.Sequence → List Encoding.Sequence → Nat
  | _, [] => 2 * state
  | previous, seq :: rest =>
    alternative + state * (seq.length - Node.commonLength previous seq) + backwardSet seq rest

def set (d : Direction) (s : CharSet) : Nat :=
  if s.isEmpty then state
  else if s.ranges.all (·.2 < 0x80) then 2 * state + transition * s.size
  else match d with
    | .forward => forwardSet (Encoding.ofSet s)
    | .backward => backwardSet [] (Encoding.ofSet s)

def bytes (text : List Char) : List UInt8 := text.flatMap String.utf8EncodeChar

/-- Words up to the next empty one, and so on. -/
def chunks (words : List (List UInt8)) : List (List (List UInt8)) :=
  words.foldr (fun w found =>
    if w.isEmpty then [] :: found
    else match found with
      | [] => [[w]]
      | chunk :: rest => (w :: chunk) :: rest) [[]]

/-- The words that begin with a byte, without it. -/
def after (b : UInt8) (words : List (List UInt8)) : List (List UInt8) :=
  (words.filter (·.head? == some b)).map List.tail

/-- A tree of words read byte by byte: where words end or go on, earlier words come first. The first
argument bounds the bytes of a word. -/
def tree : Nat → List (List UInt8) → Nat
  | 0, _ => 0
  | fuel + 1, words =>
    let later := words.dropWhile List.isEmpty
    if later.isEmpty then 0
    else
      let chunks := chunks (if later.length < words.length then [] :: later else later)
      chunks.foldl (fun n chunk =>
          let heads := (chunk.filterMap List.head?).eraseDups
          heads.foldl (fun n b => n + tree fuel (after b chunk))
            (n + match heads.length with
              | 0 => 0
              | 1 => alternative + state
              | k => alternative + state + transition * k))
        (state + alternative * (chunks.length - 1))

/-- A choice between words. -/
def words (d : Direction) (texts : List (List Char)) : Nat :=
  let words := texts.map fun t => match d with
    | .forward => bytes t
    | .backward => (bytes t).reverse
  state + tree (words.foldl (fun n w => Nat.max n (w.length + 1)) 0) words

end Size

namespace Node

/-- The literals of a choice between nothing else. -/
def literals? : Node → Option (List (List Char))
  | alt (literal s) b => b.literals?.map (s :: ·)
  | literal s => some [s]
  | _ => none

def isAlt : Node → Bool
  | alt .. => true
  | _ => false

/-- Adds the size of a node to `n`. Whether the node goes on with the alternatives of another is
told by `within`. -/
def addSize (d : Direction) (within : Bool) : Node → Nat → Nat
  | empty, n | look _, n => n + Size.state
  | literal s, n => n + Size.state * (Size.bytes s).length
  | set _ s, n => if Size.limit < n then n else n + Size.set d s
  | cat a b, n => b.addSize d false (a.addSize d false n)
  | alt a b, n =>
    match if within then none else (alt a b).literals? with
    | some texts => n + Size.words d texts
    | none =>
      let last := if b.isAlt then 0 else 2 * Size.state + Size.alternative
      b.addSize d true (a.addSize d false (n + Size.alternative + last))
  | group _ a, n =>
    match d with
    | .forward => a.addSize d false n + 2 * Size.state
    | .backward => a.addSize d false n
  | times min max _ a, n =>
    let body := a.addSize d false 0
    match min, max with
    | 0, none => n + body + Size.choice + if a.maybeEmpty then Size.choice + Size.state else 0
    | min, none => n + min * body + Size.choice
    | 0, some 1 => n + body + Size.choice + Size.state
    | min, some max =>
      if min = max then n + min * body
      else
        n + (if min = 0 then Size.state else min * body) + Size.state +
          (max - min) * (body + Size.choice)

/-- Whether the text has to start, or end if read backward, where a match does. -/
def isAnchored (d : Direction) : Node → Bool
  | look l =>
    match d with
    | .forward => l = .textStart
    | .backward => l = .textEnd
  | cat a b =>
    match d with
    | .forward => a.isAnchored d || (a.onlyEmpty && b.isAnchored d)
    | .backward => b.isAnchored d || (b.onlyEmpty && a.isAnchored d)
  | alt a b => a.isAnchored d && b.isAnchored d
  | group _ a => a.isAnchored d
  | times min _ _ a => 0 < min && a.isAnchored d
  | empty | literal _ | set .. => false

/-- The size of the automaton that reads in a direction. It skips what is before a match unless the
match is anchored. -/
def size (d : Direction) (n : Node) : Nat :=
  let skip := if n.isAnchored d then Size.state else 2 * Size.state + Size.transition + Size.choice
  let whole := match d with
    | .forward => 2 * Size.state
    | .backward => 0
  n.addSize d false (skip + whole + Size.state)

/-- So many words and nothing else are looked for without an automaton. -/
def manyWords : Nat := 3000

def isTooBig (n : Node) : Bool :=
  !n.literals?.any (manyWords ≤ ·.length) &&
    (Size.limit < n.size .forward || Size.limit < n.size .backward)

end Node

end StepPhrase.Regex
