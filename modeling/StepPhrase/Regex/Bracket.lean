import StepPhrase.Regex.Escape

/-! Character classes in square brackets. -/
namespace StepPhrase.Regex.Bracket

open StepPhrase.Unicode

inductive SetOp where
  | inter
  | diff
  | symmDiff

/-- Items read side by side: their union, their number, and how deep brackets nest in them. -/
structure Members where
  set : CharSet := .empty
  count : Nat := 0
  height : Nat := 0

namespace Members

def add (m : Members) (s : CharSet) (height : Nat) : Members :=
  ⟨m.set.union s, m.count + 1, Nat.max m.height height⟩

/-- The nesting of the items as one operand. -/
def operandHeight (m : Members) : Nat := if m.count ≤ 1 then m.height else m.height + 1

end Members

/-- An open bracket: its left operand with the operator that waits for a right one, and the items
read since. -/
structure Level where
  negated : Bool
  pending : Option (SetOp × CharSet × Nat) := none
  members : Members := {}

namespace Level

/-- The operands joined. Sets are folded before an operator joins them. -/
def joined (f : Flags) (l : Level) : CharSet × Nat :=
  match l.pending with
  | none => (l.members.set, l.members.operandHeight)
  | some (op, left, height) =>
    let a := f.fold left
    let b := f.fold l.members.set
    let set := match op with
      | .inter => a.inter b
      | .diff => a.diff b
      | .symmDiff => a.symmDiff b
    (set, Nat.max height l.members.operandHeight + 1)

def operator (f : Flags) (l : Level) (op : SetOp) : Level :=
  let (set, height) := l.joined f
  { negated := l.negated, pending := some (op, set, height) }

def add (l : Level) (s : CharSet) (height : Nat) : Level :=
  { l with members := l.members.add s height }

end Level

/-- The ASCII classes that `[:name:]` names. -/
def named : String → Option CharSet
  | "alnum" => some ⟨[(0x30, 0x39), (0x41, 0x5A), (0x61, 0x7A)]⟩
  | "alpha" => some ⟨[(0x41, 0x5A), (0x61, 0x7A)]⟩
  | "ascii" => some Class.ascii
  | "blank" => some ⟨[(0x9, 0x9), (0x20, 0x20)]⟩
  | "cntrl" => some ⟨[(0, 0x1F), (0x7F, 0x7F)]⟩
  | "digit" => some (.range 0x30 0x39)
  | "graph" => some (.range 0x21 0x7E)
  | "lower" => some (.range 0x61 0x7A)
  | "print" => some (.range 0x20 0x7E)
  | "punct" => some ⟨[(0x21, 0x2F), (0x3A, 0x40), (0x5B, 0x60), (0x7B, 0x7E)]⟩
  | "space" => some Class.asciiSpace
  | "upper" => some (.range 0x41 0x5A)
  | "word" => some Class.asciiWord
  | "xdigit" => some ⟨[(0x30, 0x39), (0x41, 0x46), (0x61, 0x66)]⟩
  | _ => none

/-- Reads `:name:]` or `:^name:]`, which is negated. -/
def readNamed? : List Char → Option ((Bool × CharSet) × List Char)
  | ':' :: rest =>
    let negated := rest.head? = some '^'
    let rest := if negated then rest.tail else rest
    let name := rest.takeWhile (· != ':')
    match rest.drop name.length with
    | ':' :: ']' :: rest => (named (String.ofList name)).map fun s => ((negated, s), rest)
    | _ => none
  | _ => none

/-- Reads hyphens that stand first, which are items, with what verbose mode skips. -/
def leadingHyphens (verbose inComment : Bool) (m : Members) : List Char → Members × List Char
  | [] => (m, [])
  | c :: rest =>
    if inComment then leadingHyphens verbose (c != '\n') m rest
    else if verbose && Unicode.isBlank c then leadingHyphens verbose false m rest
    else if verbose && c = '#' then leadingHyphens verbose true m rest
    else if c = '-' then leadingHyphens verbose false (m.add (.char '-') 0) rest
    else (m, c :: rest)

/-- Reads what follows an opening bracket: its negation, and a hyphen or a closing bracket that
stands first and is an item. -/
def openLevel (f : Flags) (s : List Char) : Level × List Char :=
  let (negated, s) := match skip f.verbose s with
    | '^' :: rest => (true, rest)
    | s => (false, s)
  let (members, s) := leadingHyphens f.verbose false {} s
  match members.count, s with
  | 0, ']' :: rest => ({ negated, members := members.add (.char ']') 0 }, rest)
  | _, s => ({ negated, members }, s)

/-- Reads one character or class. -/
def readAtom (f : Flags) : List Char → Option (Atom × List Char)
  | [] => none
  | '\\' :: rest => Escape.read f rest
  | c :: rest => some (.char c false, rest)

/-- The code point of a character in a class; without `u` it is of ASCII. -/
def codePoint? (f : Flags) : Atom → Option Nat
  | .char c _ => if f.unicode || c.toNat < 0x80 then some c.toNat else none
  | _ => none

/-- The character after the next one, with blanks and the mark of a comment passed over. -/
def peek (verbose : Bool) (s : List Char) : Option Char :=
  let rec go (inComment : Bool) : List Char → Option Char
    | [] => none
    | c :: rest =>
      if Unicode.isBlank c then go inComment rest
      else if !inComment && c = '#' then go true rest
      else some c
  if verbose then go false s <|> s.head? else s.head?

/-- Reads a character, a class or an interval of characters. -/
def readItem (f : Flags) (s : List Char) : Option (CharSet × List Char) := do
  let (first, s) ← readAtom f s
  match skip f.verbose s with
  | [] => none
  | c :: rest =>
    if c != '-' || peek f.verbose rest == some ']' || peek f.verbose rest == some '-' then
      match first with
      | .set set => return (set, c :: rest)
      | first =>
        let n ← codePoint? f first
        return (.range n n, c :: rest)
    else
      let (last, s) ← readAtom f (skip f.verbose rest)
      let lo ← codePoint? f first
      let hi ← codePoint? f last
      if lo ≤ hi then return (.range lo hi, s) else none

/-- Reads up to the bracket that closes the outermost level. Gives the set and how deep brackets
nest in it. The first argument bounds the items by the characters left. -/
def readLevels (f : Flags) :
    Nat → List Level → Level → List Char → Option ((CharSet × Nat) × List Char)
  | 0, _, _, _ => none
  | fuel + 1, outer, l, s =>
    match skip f.verbose s with
    | [] => none
    | '[' :: rest =>
      match readNamed? rest with
      | some ((negated, set), rest) =>
        match f.close? negated set with
        | none => none
        | some set => readLevels f fuel outer (l.add set 0) rest
      | none =>
        let (inner, rest) := openLevel f rest
        readLevels f fuel (l :: outer) inner rest
    | ']' :: rest =>
      let (set, height) := l.joined f
      match f.close? l.negated set, outer with
      | none, _ => none
      | some set, [] => some ((set, height + 1), rest)
      | some set, parent :: outer =>
        readLevels f fuel outer (parent.add set (height + 1)) rest
    | '&' :: '&' :: rest => readLevels f fuel outer (l.operator f .inter) rest
    | '-' :: '-' :: rest => readLevels f fuel outer (l.operator f .diff) rest
    | '~' :: '~' :: rest => readLevels f fuel outer (l.operator f .symmDiff) rest
    | s =>
      match readItem f s with
      | none => none
      | some (set, rest) => readLevels f fuel outer (l.add set 0) rest

/-- Reads a class after its opening bracket. -/
def read (f : Flags) (s : List Char) : Option ((CharSet × Nat) × List Char) :=
  let (l, rest) := openLevel f s
  readLevels f (rest.length + 1) [] l rest

end StepPhrase.Regex.Bracket
