import StepPhrase.Regex.Reader
import StepPhrase.Regex.Search
import StepPhrase.Regex.Size

/-! Regular expressions: compiling a text, matching with it, and the groups of a match. -/
namespace StepPhrase

structure Regex where
  source : String
  program : Regex.Program
  /-- The number of groups, the whole match not counted. -/
  groups : Nat

namespace Regex

inductive Error where
  /-- The text is no expression. What is said of that is left open. -/
  | malformed {words : String}
  | tooBig
  deriving DecidableEq, Repr

def Error.message : Error → String
  | @malformed words => words
  | tooBig => "Compiled regex exceeds size limit of 10485760 bytes."

def compile (source : String) : Except Error Regex :=
  match Node.ofText? source.toList with
  | none => .error (@Error.malformed "regex parse error")
  | some node =>
    if node.isTooBig then .error .tooBig else .ok ⟨source, node.program, node.maxGroup 0⟩

/-- The groups of a match: the positions noted in slots, the latest first. A group starts in the
slot of twice its number and ends in the next. -/
structure Captures where
  text : List Char
  slots : List (Nat × Nat)

/-- What the group captured, if it took part. Group 0 is the whole match. -/
def Captures.get? (c : Captures) (group : Nat) : Option String := do
  let start ← c.slots.lookup (2 * group)
  let stop ← c.slots.lookup (2 * group + 1)
  return String.ofList ((c.text.drop start).take (stop - start))

/-- What the group captured, or nothing if it took no part. -/
def Captures.textOf (c : Captures) (group : Nat) : String := (c.get? group).getD ""

/-- The preferred match at the first position of the text that has one. -/
def captures? (r : Regex) (text : String) : Option Captures :=
  (r.program.search text.toList).map fun (start, t) =>
    ⟨text.toList, (0, start) :: (1, t.position) :: t.slots⟩

def isMatch (r : Regex) (text : String) : Bool := (r.captures? text).isSome

/-- The texts of the listed groups in the match. -/
def select? (r : Regex) (groups : List Nat) (text : String) : Option (List String) :=
  (r.captures? text).map fun c => groups.map c.textOf

/-- The texts of all groups in the match, the whole match left out. -/
def extract? (r : Regex) (text : String) : Option (List String) :=
  r.select? (List.range' 1 r.groups) text

/-- Characters that stand for something else unless a backslash is before them. -/
def metaCharacters : List Char :=
  ['\\', '.', '+', '*', '?', '(', ')', '|', '[', ']', '{', '}', '^', '$', '#', '&', '-', '~']

def isMeta (c : Char) : Bool := metaCharacters.contains c

/-- The source of an expression for exactly the text. -/
def escape (text : List Char) : List Char :=
  text.flatMap fun c => if isMeta c then ['\\', c] else [c]

end Regex

end StepPhrase
