import StepPhrase.Regex.Flags
import StepPhrase.Regex.Node
import StepPhrase.Regex.Property
import StepPhrase.Text.Ascii

/-! Escape sequences, by which a regular expression names a character, class or assertion. -/
namespace StepPhrase.Regex

open StepPhrase.Text StepPhrase.Unicode

inductive Atom where
  /-- A character; `byte` if written as two hexadecimal digits. -/
  | char (c : Char) (byte : Bool)
  | look (l : Look)
  | set (s : CharSet)

namespace Escape

def charOfNat? (n : Nat) : Option Char := if n.isValidChar then some (Char.ofNat n) else none

/-- Characters that stand for themselves after a backslash: all of ASCII but letters, digits and
angle brackets. -/
def isPlain (c : Char) : Bool := c.toNat < 0x80 && !c.isAlphanum && c != '<' && c != '>'

/-- The text up to a closing brace, without what verbose mode skips. -/
def braced (verbose inComment : Bool) : List Char → Option (List Char × List Char)
  | [] => none
  | c :: rest =>
    if inComment then braced verbose (c != '\n') rest
    else if verbose && Unicode.isBlank c then braced verbose false rest
    else if verbose && c = '#' then braced verbose true rest
    else if c = '}' then some ([], rest)
    else (braced verbose false rest).map fun (name, rest) => (c :: name, rest)

/-- Reads `n` hexadecimal digits. -/
def hexDigits (verbose : Bool) : Nat → List Char → Option (List Nat × List Char)
  | 0, s => some ([], s)
  | n + 1, s =>
    match skip verbose s with
    | [] => none
    | c :: rest => do
      let d ← hexValue? c
      let (ds, rest) ← hexDigits verbose n rest
      return (d :: ds, rest)

/-- Reads the hexadecimal number of a character: in braces, or of `n` digits. -/
def hex (verbose : Bool) (n : Nat) (s : List Char) : Option (Atom × List Char) :=
  match skip verbose s with
  | '{' :: rest => do
    let (name, rest) ← braced verbose false rest
    if name.isEmpty then none
    let digits ← name.mapM hexValue?
    let c ← charOfNat? (ofDigits 16 digits)
    return (.char c false, rest)
  | s => do
    let (digits, rest) ← hexDigits verbose n s
    let c ← charOfNat? (ofDigits 16 digits)
    return (.char c (n = 2), rest)

/-- The texts before and after the first `sep`. -/
def splitAt? (sep : List Char) : List Char → Option (List Char × List Char)
  | [] => none
  | c :: rest =>
    if sep.isPrefixOf (c :: rest) then some ([], (c :: rest).drop sep.length)
    else (splitAt? sep rest).map fun (a, b) => (c :: a, b)

/-- The set a property in braces stands for. A value after `!=` is read as after `=`. -/
def property? (name : List Char) : Option CharSet :=
  match splitAt? ['!', '='] name <|> splitAt? [':'] name <|> splitAt? ['='] name with
  | some (name, value) => Property.lookupValue? name value
  | none => Property.lookup? name

/-- Reads the rest of `\p` or `\P`. -/
def propertyClass (f : Flags) (negated : Bool) (s : List Char) : Option (Atom × List Char) := do
  if !f.unicode then none
  match skip f.verbose s with
  | [] => none
  | '{' :: rest =>
    let (name, rest) ← braced f.verbose false rest
    let set ← f.close? negated (← property? name)
    return (.set set, rest)
  | c :: rest =>
    let set ← f.close? negated (← Property.lookup? [c])
    return (.set set, rest)

/-- A class of one letter; its set is not folded. -/
def letterClass (f : Flags) (negated : Bool) (unicode ascii : CharSet) (rest : List Char) :
    Option (Atom × List Char) :=
  let set := if f.unicode then unicode else ascii
  ({ f with ignoreCase := false }.close? negated set).map (.set ·, rest)

def isBoundaryNameChar (c : Char) : Bool := c.isAlpha || c = '-'

/-- Reads what may follow `\b`: the kind of boundary in braces. A brace with something else in it
is left to be read as a repetition. -/
def boundary (f : Flags) (s : List Char) : Option (Atom × List Char) :=
  match s with
  | '{' :: rest =>
    match skip f.verbose rest with
    | [] => none
    | c :: rest =>
      if isBoundaryNameChar c then do
        let (name, rest) ← braced f.verbose false (c :: rest)
        let look ← match String.ofList name with
          | "start" => some (Look.wordStart f.word)
          | "end" => some (Look.wordEnd f.word)
          | "start-half" => some (Look.wordStartHalf f.word)
          | "end-half" => some (Look.wordEndHalf f.word)
          | _ => none
        return (.look look, rest)
      else some (.look (.wordBoundary f.word), s)
  | _ => some (.look (.wordBoundary f.word), s)

/-- Reads the rest of an escape sequence after its backslash. -/
def read (f : Flags) : List Char → Option (Atom × List Char)
  | [] => none
  | c :: rest =>
    match c with
    | 'x' => hex f.verbose 2 rest
    | 'u' => hex f.verbose 4 rest
    | 'U' => hex f.verbose 8 rest
    | 'p' => propertyClass f false rest
    | 'P' => propertyClass f true rest
    | 'd' => letterClass f false decimalDigits Class.asciiDigit rest
    | 'D' => letterClass f true decimalDigits Class.asciiDigit rest
    | 's' => letterClass f false whiteSpace Class.asciiSpace rest
    | 'S' => letterClass f true whiteSpace Class.asciiSpace rest
    | 'w' => letterClass f false Class.word Class.asciiWord rest
    | 'W' => letterClass f true Class.word Class.asciiWord rest
    | 'a' => some (.char '\x07' false, rest)
    | 'f' => some (.char '\x0c' false, rest)
    | 't' => some (.char '\t' false, rest)
    | 'n' => some (.char '\n' false, rest)
    | 'r' => some (.char '\r' false, rest)
    | 'v' => some (.char '\x0b' false, rest)
    | 'A' => some (.look .textStart, rest)
    | 'z' => some (.look .textEnd, rest)
    | 'b' => boundary f rest
    | 'B' => some (.look (.notWordBoundary f.word), rest)
    | '<' => some (.look (.wordStart f.word), rest)
    | '>' => some (.look (.wordEnd f.word), rest)
    | c => if isPlain c then some (.char c false, rest) else none

end Escape

end StepPhrase.Regex
