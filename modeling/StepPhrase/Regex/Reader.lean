import StepPhrase.Regex.Bracket
import StepPhrase.Unicode.Additions

/-! Reading the text of a regular expression. -/
namespace StepPhrase.Regex

open StepPhrase.Text StepPhrase.Unicode

/-- A node with the depth to which constructs nest in it. -/
structure Part where
  node : Node
  height : Nat := 0
  /-- Flags can not be repeated. -/
  repeatable : Bool := true

namespace Part

/-- The greatest depth in one of the parts, and one more if there are two or more. -/
def heightAround (parts : List Part) : Nat :=
  let height := parts.foldl (fun h p => Nat.max h p.height) 0
  if parts.length ≤ 1 then height else height + 1

/-- The concatenation of parts given last first. -/
def concat (parts : List Part) : Part :=
  { node := .concatReversed (parts.map (·.node)), height := heightAround parts }

/-- The choice between parts given last first. -/
def choose (parts : List Part) : Part :=
  { node := .chooseReversed (parts.map (·.node)), height := heightAround parts }

end Part

/-- An open group with the alternatives and items read before it, last first, and the flags that
return at its end. -/
structure OpenGroup where
  index : Option Nat
  branches : List Part
  items : List Part
  flags : Flags

/-- A regular expression half read. -/
structure Reading where
  outer : List OpenGroup := []
  /-- The finished alternatives of the innermost group, last first. -/
  branches : List Part := []
  /-- The items of its current alternative, last first. -/
  items : List Part := []
  flags : Flags := {}
  groups : Nat := 0
  names : List (List Char) := []

namespace Reading

def push (r : Reading) (p : Part) : Reading := { r with items := p :: r.items }

/-- The current group as one part. -/
def body (r : Reading) : Part := .choose (.concat r.items :: r.branches)

def nextBranch (r : Reading) : Reading :=
  { r with branches := .concat r.items :: r.branches, items := [] }

def openGroup (r : Reading) (index : Option Nat) (flags : Flags) : Reading :=
  { r with
    outer := ⟨index, r.branches, r.items, r.flags⟩ :: r.outer
    branches := []
    items := []
    flags }

def openCapture (r : Reading) : Reading :=
  { r.openGroup (some (r.groups + 1)) r.flags with groups := r.groups + 1 }

def closeGroup (r : Reading) : Option Reading :=
  match r.outer with
  | [] => none
  | g :: outer =>
    let p := r.body
    let node := match g.index with
      | none => p.node
      | some i => .group i p.node
    some { r with
      outer
      branches := g.branches
      items := { node, height := p.height + 1 } :: g.items
      flags := g.flags }

/-- Repeats the last item. Flags and the start of a branch cannot be repeated. -/
def repeatLast (r : Reading) (min : Nat) (max : Option Nat) (greedy : Bool) : Option Reading :=
  match r.items with
  | [] => none
  | p :: items =>
    if !p.repeatable then none
    else
      let node := p.node.repeated min max (greedy != r.flags.swapGreed)
      some { r with items := { node, height := p.height + 1 } :: items }

def pushSet (r : Reading) (s : CharSet) (height : Nat) : Reading :=
  r.push { node := .ofSet r.flags.unicode s, height }

def pushChar (r : Reading) (c : Char) (byte : Bool) : Option Reading :=
  if r.flags.unicode || c.toNat < 0x80 then some (r.pushSet (r.flags.fold (.char c)) 0)
  else if byte then none
  else some (r.push { node := .literal [c] })

def pushLook (r : Reading) (l : Look) : Reading := r.push { node := .look l }

def pushAtom (r : Reading) : Atom → Option Reading
  | .char c byte => r.pushChar c byte
  | .look l => some (r.pushLook l)
  | .set s => some (r.pushSet s 0)

/-- The set of `.`, which without `u` would hold bytes that are no characters. -/
def pushDot (r : Reading) : Option Reading :=
  if !r.flags.unicode then none
  else if r.flags.dotAll then some (r.pushSet .any 0)
  else if r.flags.crlf then some (r.pushSet (CharSet.union (.char '\n') (.char '\r')).compl 0)
  else some (r.pushSet (CharSet.char '\n').compl 0)

def lineStart (f : Flags) : Look :=
  if !f.multiLine then .textStart else if f.crlf then .crlfStart else .lineStart

def lineEnd (f : Flags) : Look :=
  if !f.multiLine then .textEnd else if f.crlf then .crlfEnd else .lineEnd

def isGroupNameStart (c : Char) : Bool :=
  c = '_' || Class.alphabetic.contains c || Additions.letters.contains c

def isGroupNameChar (c : Char) : Bool :=
  isGroupNameStart c || c = '.' || c = '[' || c = ']' || Class.number.contains c ||
    Additions.numbers.contains c

/-- Opens a group whose name and closing bracket follow. -/
def openNamed (r : Reading) (s : List Char) : Option (Reading × List Char) :=
  let name := s.takeWhile (· != '>')
  match name, s.drop name.length with
  | first :: others, '>' :: rest =>
    if isGroupNameStart first && others.all isGroupNameChar && !r.names.contains name then
      some ({ r.openCapture with names := name :: r.names }, rest)
    else none
  | _, _ => none

/-- Reads what follows an opening parenthesis. -/
def readGroup (r : Reading) (s : List Char) : Option (Reading × List Char) :=
  match skip r.flags.verbose s with
  | '?' :: '=' :: _ | '?' :: '!' :: _ => none
  | '?' :: '<' :: '=' :: _ | '?' :: '<' :: '!' :: _ => none
  | '?' :: 'P' :: '<' :: rest | '?' :: '<' :: rest => r.openNamed rest
  | '?' :: rest =>
    match r.flags.read [] rest with
    | none => none
    | some (flags, any, mark, rest) =>
      if mark = ':' then some (r.openGroup none flags, rest)
      else if any then some ({ r with flags }.push { node := .empty, repeatable := false }, rest)
      else none
  | s => some (r.openCapture, s)

/-- Reads the repetition mark `?`, `*` or `+`, with the `?` that makes it lazy. -/
def readMark (r : Reading) (min : Nat) (max : Option Nat) (s : List Char) :
    Option (Reading × List Char) :=
  match s with
  | '?' :: rest => (r.repeatLast min max false).map (·, rest)
  | s => (r.repeatLast min max true).map (·, s)

/-- Reads decimal digits, with what verbose mode skips. -/
def readDigits (verbose inComment : Bool) : List Char → List Nat × List Char
  | [] => ([], [])
  | c :: rest =>
    if inComment then readDigits verbose (c != '\n') rest
    else if verbose && isBlank c then readDigits verbose false rest
    else if verbose && c = '#' then readDigits verbose true rest
    else match digitValue? c with
      | none => ([], c :: rest)
      | some d =>
        let (ds, rest) := readDigits verbose false rest
        (d :: ds, rest)

/-- Counts of repetitions are below this number. -/
def countLimit : Nat := 0x100000000

/-- Reads a count, with blanks around it. -/
def readCount (verbose : Bool) (s : List Char) : Option Nat × List Char :=
  let (ds, rest) := readDigits verbose false (s.dropWhile isBlank)
  let n := ofDigits 10 ds
  (if ds.isEmpty || countLimit ≤ n then none else some n, rest.dropWhile isBlank)

/-- Reads the bounds of a repetition after its opening brace. -/
def readBounds (verbose : Bool) (s : List Char) : Option ((Nat × Option Nat) × List Char) :=
  let (min, s) := readCount verbose (skip verbose s)
  match min, s with
  | some min, '}' :: rest => some ((min, some min), rest)
  | some min, ',' :: rest =>
    match skip verbose rest with
    | '}' :: rest => some ((min, none), rest)
    | s =>
      match readCount verbose s with
      | (some max, '}' :: rest) => if min ≤ max then some ((min, some max), rest) else none
      | _ => none
  | _, _ => none

/-- Reads one construct, which begins with `c`. -/
def step (r : Reading) (c : Char) (s : List Char) : Option (Reading × List Char) :=
  match c with
  | '(' => r.readGroup s
  | ')' => r.closeGroup.map (·, s)
  | '|' => some (r.nextBranch, s)
  | '[' =>
    match Bracket.read r.flags s with
    | some ((set, height), rest) => some (r.pushSet set height, rest)
    | none => none
  | '?' => r.readMark 0 (some 1) s
  | '*' => r.readMark 0 none s
  | '+' => r.readMark 1 none s
  | '{' =>
    match readBounds r.flags.verbose s with
    | some ((min, max), rest) => r.readMark min max (skip r.flags.verbose rest)
    | none => none
  | '\\' =>
    match Escape.read r.flags s with
    | some (a, rest) => (r.pushAtom a).map (·, rest)
    | none => none
  | '.' => r.pushDot.map (·, s)
  | '^' => some (r.pushLook (lineStart r.flags), s)
  | '$' => some (r.pushLook (lineEnd r.flags), s)
  | c => (r.pushChar c false).map (·, s)

/-- Reads constructs to the end. The first argument bounds them by the characters left. -/
def run : Nat → Reading → List Char → Option Reading
  | fuel, r, s =>
    match skip r.flags.verbose s with
    | [] => some r
    | c :: rest =>
      match fuel with
      | 0 => none
      | fuel + 1 =>
        match r.step c rest with
        | some (r, rest) => run fuel r rest
        | none => none

end Reading

/-- How deep constructs may nest. -/
def maxHeight : Nat := 250

/-- The tree of a regular expression, if its text is well-formed. -/
def Node.ofText? (text : List Char) : Option Node :=
  match Reading.run text.length {} text with
  | none => none
  | some r => if r.outer.isEmpty && r.body.height ≤ maxHeight then some r.body.node else none

end StepPhrase.Regex
