import StepPhrase.Scalar.Fault
import StepPhrase.Text.Ascii

/-! Binary floating-point numbers as bit patterns, and how decimals are rounded to them. -/
namespace StepPhrase

open Text

inductive FloatType where
  | f32
  | f64
  deriving DecidableEq, Repr

namespace FloatType

def name : FloatType → String
  | f32 => "f32"
  | f64 => "f64"

def width : FloatType → Nat
  | f32 => 32
  | f64 => 64

/-- The number of significant bits. -/
def precision : FloatType → Nat
  | f32 => 24
  | f64 => 53

/-- The exponent of the last bit of the smallest numbers, as a negative number. -/
def minExponent : FloatType → Nat
  | f32 => 149
  | f64 => 1074

/-- The pattern of infinity without its sign. -/
def infinity : FloatType → Nat
  | f32 => 0x7F800000
  | f64 => 0x7FF0000000000000

/-- The pattern of a quiet NaN. -/
def nan : FloatType → Nat
  | f32 => 0x7FC00000
  | f64 => 0x7FF8000000000000

end FloatType

/-- A floating-point number by its bits, the sign bit first. -/
structure Binary (t : FloatType) where
  bits : Nat
  deriving DecidableEq

/-- A decimal numeral: `digits` times ten to the `exponent`. -/
structure Decimal where
  digits : Nat
  exponent : Int
  deriving DecidableEq, Repr

/-- The quotient rounded to the nearest number, a tie to the even one. -/
def roundDiv (num den : Nat) : Nat :=
  let q := num / den
  let r := num % den
  if 2 * r < den then q
  else if den < 2 * r then q + 1
  else if q % 2 = 0 then q else q + 1

namespace Binary

variable {t : FloatType}

def isNaN (x : Binary t) : Bool := t.infinity < x.bits % Nat.pow 2 (t.width - 1)

def withSign (negative : Bool) (magnitude : Nat) : Binary t :=
  ⟨if negative then Nat.pow 2 (t.width - 1) + magnitude else magnitude⟩

/-- The pattern of the number nearest to `num / den`, where `shift` tells the exponent of the last
bit above the least one. -/
def patternAt (t : FloatType) (num den shift : Nat) : Nat :=
  let exponent : Int := (shift : Int) - t.minExponent
  let m :=
    if 0 ≤ exponent then roundDiv num (den * Nat.pow 2 exponent.toNat)
    else roundDiv (num * Nat.pow 2 (-exponent).toNat) den
  Nat.min (shift * Nat.pow 2 (t.precision - 1) + m) t.infinity

/-- The pattern of the number nearest to `num / den`; overflow gives infinity. -/
def ofRatio (t : FloatType) (num den : Nat) : Nat :=
  let magnitude : Int := (Nat.log2 num : Int) - Nat.log2 den
  let shift := (magnitude - t.precision + t.minExponent + 1).toNat
  let exponent : Int := (shift : Int) - t.minExponent
  let small :=
    if 0 ≤ exponent then num < den * Nat.pow 2 exponent.toNat * Nat.pow 2 (t.precision - 1)
    else num * Nat.pow 2 (-exponent).toNat < den * Nat.pow 2 (t.precision - 1)
  patternAt t num den (if small then shift - 1 else shift)

/-- The nearest number to a decimal. Exponents far outside the range need no exact arithmetic. -/
def ofDecimal (t : FloatType) (negative : Bool) (d : Decimal) : Binary t :=
  let scale : Int := d.exponent + (Nat.toDigits 10 d.digits).length
  withSign negative <|
    if d.digits = 0 ∨ scale < -400 then 0
    else if 400 < scale then t.infinity
    else if 0 ≤ d.exponent then ofRatio t (d.digits * Nat.pow 10 d.exponent.toNat) 1
    else ofRatio t d.digits (Nat.pow 10 (-d.exponent).toNat)

/-- Reads a signed exponent after `e`. -/
def readExponent? (s : List Char) : Option Int :=
  let (negative, digits) := match s with
    | '-' :: rest => (true, rest)
    | '+' :: rest => (false, rest)
    | s => (false, s)
  if digits.isEmpty then none
  else (digits.mapM digitValue?).map fun ds =>
    let n : Int := ofDigits 10 ds
    if negative then -n else n

/-- Reads digits with an optional point and exponent; there is a digit before or after the point. -/
def readDecimal? (s : List Char) : Option Decimal :=
  let whole := s.takeWhile Char.isDigit
  let rest := s.dropWhile Char.isDigit
  let (fraction, rest) := match rest with
    | '.' :: rest => (rest.takeWhile Char.isDigit, rest.dropWhile Char.isDigit)
    | rest => ([], rest)
  if whole.isEmpty && fraction.isEmpty then none
  else
    let exponent? : Option Int := match rest with
      | [] => some 0
      | c :: rest => if c = 'e' ∨ c = 'E' then readExponent? rest else none
    exponent?.map fun exponent =>
      ⟨ofDigits 10 ((whole ++ fraction).filterMap digitValue?), exponent - fraction.length⟩

/-- Reads an unsigned number: a decimal, an infinity or a NaN. -/
def readMagnitude? (t : FloatType) (negative : Bool) (s : List Char) : Option (Binary t) :=
  match String.ofList (s.map Char.toLower) with
  | "inf" | "infinity" => some (withSign negative t.infinity)
  | "nan" => some (withSign negative t.nan)
  | _ => (readDecimal? s).map (ofDecimal t negative)

def read (t : FloatType) (s : String) : Except ScalarError (Binary t) :=
  match s.toList with
  | [] => .error .emptyFloat
  | c :: rest =>
    let magnitude? :=
      if c = '-' then readMagnitude? t true rest
      else if c = '+' then readMagnitude? t false rest
      else readMagnitude? t false (c :: rest)
    match magnitude? with
    | some x => .ok x
    | none => .error .invalidFloat

end Binary

end StepPhrase
