import StepPhrase.Parameter
import StepPhrase.Pattern.Token

/-! Patterns whose hints are resolved, and the regular expressions they stand for. -/
namespace StepPhrase

variable {κ : Type} [RecordKind κ]

structure ExpressionConfig where
  /-- Whether a hint that names no parameter type is a fault, not a name for texts. -/
  strictParameterTypes : Bool := false
  deriving DecidableEq, Repr

/-- A part of a pattern: text to be found as it is, or a placeholder with its type. -/
inductive Piece (κ : Type) [RecordKind κ] where
  | literal (text : List Char)
  | slot (name : String) (type : ParameterType κ)

namespace Piece

def source : Piece κ → String
  | literal text => String.ofList (Regex.escape text)
  | slot _ t => "(" ++ t.fragment ++ ")"

/-- The regular expression for whole texts that follow the pieces. -/
def sourceOf (pieces : List (Piece κ)) : String :=
  "^" ++ String.join (pieces.map source) ++ "$"

def slot? : Piece κ → Option (String × ParameterType κ)
  | literal _ => none
  | slot name t => some (name, t)

def unknownHint (name hint : String) : String :=
  "placeholder `" ++ name ++ "` uses unknown hint `" ++ hint ++ "`; capturing it as text"

/-- The type of a placeholder. Without a hint it is text; an unknown hint names a type of texts, or
is a fault if types are strict. -/
def resolve (types : ParameterTypes κ) (config : ExpressionConfig) (p : Placeholder) :
    Logged (Except PatternError (ParameterType κ)) :=
  match p.hint with
  | none => pure (.ok (.text "String"))
  | some hint =>
    match types.get? hint with
    | some t => pure (.ok t)
    | none =>
      if config.strictParameterTypes then pure (.error (.undefinedParameterType hint p.start))
      else do
        Logged.record .debug (unknownHint p.name hint)
        return .ok (.text hint)

/-- The pieces of tokens of which `depth` stray braces before are still open. A stray brace stands
for itself, but has to be closed or to close; `length` is the length of the pattern in bytes. -/
def ofTokens (types : ParameterTypes κ) (config : ExpressionConfig) (length : Nat) (depth : Nat) :
    List Token → Logged (Except PatternError (List (Piece κ)))
  | [] =>
    if depth = 0 then pure (.ok [])
    else pure (.error (.placeholder ⟨.unbalanced, length, none⟩))
  | .literal text :: rest => do
    let pieces ← ofTokens types config length depth rest
    return pieces.map (literal text :: ·)
  | .openBrace _ :: rest => do
    let pieces ← ofTokens types config length (depth + 1) rest
    return pieces.map (literal ['{'] :: ·)
  | .closeBrace position :: rest =>
    match depth with
    | 0 => pure (.error (.placeholder ⟨.unmatchedClose, position, none⟩))
    | depth + 1 => do
      let pieces ← ofTokens types config length depth rest
      return pieces.map (literal ['}'] :: ·)
  | .placeholder p :: rest => do
    match ← resolve types config p with
    | .error e => return .error e
    | .ok t => do
      let pieces ← ofTokens types config length depth rest
      return pieces.map (slot p.name t :: ·)

/-- The pieces of a pattern. Faults of placeholders anywhere are found first. -/
def ofPattern (types : ParameterTypes κ) (config : ExpressionConfig) (pattern : String) :
    Logged (Except PatternError (List (Piece κ))) :=
  match Token.ofPattern pattern with
  | .error e => pure (.error (.placeholder e))
  | .ok tokens => ofTokens types config (byteLength pattern.toList) 0 tokens

end Piece

end StepPhrase
