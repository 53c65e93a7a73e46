import StepPhrase.Pattern.Piece

/-! Compiled step patterns, and the arguments they capture. -/
namespace StepPhrase

variable {κ : Type} [RecordKind κ]

/-- A captured argument: the placeholder's name, the name of its type, the text and its value. -/
structure Argument (κ : Type) [RecordKind κ] where
  name : String
  parameterType : String
  text : String
  value : Value κ

/-- A placeholder of an expression, and the group that captures its text. -/
structure Slot (κ : Type) [RecordKind κ] where
  name : String
  type : ParameterType κ
  group : Nat

namespace Slot

/-- The slots of the placeholders, each group after those of the placeholders before. -/
def number (next : Nat) : List (String × ParameterType κ) → List (Slot κ)
  | [] => []
  | (name, t) :: rest => ⟨name, t, next⟩ :: number (next + 1 + t.innerGroups) rest

def argument (s : Slot κ) (text : String) : Except ParameterError (Argument κ) :=
  (s.type.value text).map fun value => ⟨s.name, s.type.name, text, value⟩

end Slot

/-- A pattern compiled with the parameter types of one moment. -/
structure Expression (κ : Type) [RecordKind κ] where
  pattern : String
  regex : Regex
  slots : List (Slot κ)

namespace Expression

/-- The expression of pieces made from the pattern. -/
def ofPieces (pattern : String) (pieces : List (Piece κ)) : Except PatternError (Expression κ) :=
  match Regex.compile (Piece.sourceOf pieces) with
  | .error e => .error (.regex e)
  | .ok regex => .ok ⟨pattern, regex, Slot.number 1 (pieces.filterMap Piece.slot?)⟩

def compile (types : ParameterTypes κ) (config : ExpressionConfig) (pattern : String) :
    Logged (Except PatternError (Expression κ)) := do
  let pieces ← Piece.ofPattern types config pattern
  return pieces.bind (ofPieces pattern)

/-- The arguments of the texts that the slots captured. The first text that its type refuses is the
fault. -/
def arguments (slots : List (Slot κ)) (texts : List String) :
    Except ParameterError (List (Argument κ)) :=
  (slots.zip texts).mapM fun (slot, text) => slot.argument text

def parameterNames (e : Expression κ) : List String := e.slots.map (·.name)

/-- The arguments of a text, if the expression matches it. -/
def match? (e : Expression κ) (text : String) :
    Except ParameterError (Option (List (Argument κ))) :=
  match e.regex.select? (e.slots.map (·.group)) text with
  | none => .ok none
  | some texts => (arguments e.slots texts).map some

end Expression

/-- The regular expression of a pattern under the built-in types. -/
def sourceOfPattern (κ : Type) [RecordKind κ] (pattern : String) : Except PatternError String :=
  (Piece.ofPattern (ParameterTypes.builtin : ParameterTypes κ) {} pattern).value.map Piece.sourceOf

/-- The compiled regular expression of a pattern under the built-in types. -/
def regexOfPattern (κ : Type) [RecordKind κ] (pattern : String) : Except PatternError Regex :=
  (sourceOfPattern κ pattern).bind fun source => (Regex.compile source).mapError .regex

end StepPhrase
