import StepPhrase.Log
import StepPhrase.Value

/-! Parameter types: what the hint of a placeholder stands for. -/
namespace StepPhrase

open Text

variable {κ : Type} [RecordKind κ]

/-- A named type of captures: the regular expression of its texts, the number of groups in that
expression, and how a captured text becomes a value. -/
structure ParameterType (κ : Type) [RecordKind κ] where
  name : String
  fragment : String
  innerGroups : Nat
  convert : String → Except Cause (Value κ)

namespace Fragment

/-- As little text as possible, on one line. -/
def text : String := ".+?"

def unsigned : String := "\\d+"

def signed : String := "[+-]?\\d+"

def float : String :=
  "(?i:(?:[+-]?(?:\\d+\\.\\d*|\\.\\d+|\\d+)(?:[eE][+-]?\\d+)?|nan|inf|infinity))"

def word : String := "[^\\s]+"

def bool : String := "(?i:true|false)"

end Fragment

namespace ParameterType

/-- The type with the fragment, which has to be a regular expression of its own. -/
def ofFragment (name fragment : String) (convert : String → Except Cause (Value κ)) :
    Except PatternError (ParameterType κ) :=
  match Regex.compile fragment with
  | .ok r => .ok ⟨name, fragment, r.groups, convert⟩
  | .error e => .error (.invalidFragment name e)

/-- The value of a captured text. -/
def value (t : ParameterType κ) (text : String) : Except ParameterError (Value κ) :=
  (t.convert text).mapError (.refused t.name text)

/-- Texts as they are. -/
def text (name : String) : ParameterType κ := ⟨name, Fragment.text, 0, fun s => .ok ⟨.text, s⟩⟩

def word : ParameterType κ := ⟨"word", Fragment.word, 0, fun s => .ok ⟨.text, s⟩⟩

def int (t : IntType) : ParameterType κ :=
  ⟨t.name, if t.signed then Fragment.signed else Fragment.unsigned, 0,
    fun s => (Cell.int t s).map fun n => ⟨.int t, n⟩⟩

def float (t : FloatType) : ParameterType κ :=
  ⟨t.name, Fragment.float, 0, fun s => (Cell.float t s).map fun x => ⟨.float t, x⟩⟩

/-- Truth values in any case. -/
def bool : ParameterType κ :=
  ⟨"bool", Fragment.bool, 0, fun s => (Cell.bool (asciiLower s)).map fun b => ⟨.bool, b⟩⟩

end ParameterType

/-- The parameter types that hints can name. -/
abbrev ParameterTypes (κ : Type) [RecordKind κ] := NameMap (ParameterType κ)

namespace ParameterTypes

/-- The types that stand ready: integers, floats, texts, words and truth values. -/
def builtin : ParameterTypes κ :=
  let ints : List IntType :=
    [.u8, .u16, .u32, .u64, .u128, .usize, .i8, .i16, .i32, .i64, .i128, .isize]
  let types : List (ParameterType κ) :=
    ints.map .int ++ [.float .f32, .float .f64, .text "String", .word, .bool]
  .ofList (types.map fun t => (t.name, t))

def redefined (name : String) : String :=
  "parameter type `" ++ name ++ "` was redefined; later expressions use the new definition"

/-- Adds a type, and gives the one it replaces. -/
def define (types : ParameterTypes κ) (t : ParameterType κ) :
    Logged (ParameterTypes κ × Option (ParameterType κ)) := do
  let replaced := types.get? t.name
  Logged.warnIf (replaced.map fun old => redefined old.name)
  return (types.insert t.name t, replaced)

end ParameterTypes

end StepPhrase
