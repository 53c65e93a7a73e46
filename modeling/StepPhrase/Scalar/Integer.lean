import StepPhrase.Scalar.Fault
import StepPhrase.Text.Ascii

/-! Integers of fixed width, and how they are read. -/
namespace StepPhrase

open Text

inductive IntType where
  | u8 | u16 | u32 | u64 | u128 | usize
  | i8 | i16 | i32 | i64 | i128 | isize
  deriving DecidableEq, Repr

namespace IntType

def name : IntType → String
  | u8 => "u8" | u16 => "u16" | u32 => "u32" | u64 => "u64" | u128 => "u128" | usize => "usize"
  | i8 => "i8" | i16 => "i16" | i32 => "i32" | i64 => "i64" | i128 => "i128" | isize => "isize"

def signed : IntType → Bool
  | u8 | u16 | u32 | u64 | u128 | usize => false
  | i8 | i16 | i32 | i64 | i128 | isize => true

/-- The width in bits. -/
def width : IntType → Nat
  | u8 | i8 => 8
  | u16 | i16 => 16
  | u32 | i32 => 32
  | u64 | i64 | usize | isize => 64
  | u128 | i128 => 128

/-- One more than the greatest number. -/
def bound (t : IntType) : Nat := Nat.pow 2 (if t.signed then t.width - 1 else t.width)

def lo (t : IntType) : Int := if t.signed then -t.bound else 0

def hi (t : IntType) : Int := t.bound - 1

end IntType

/-- An integer in the range of its type. -/
structure Bounded (t : IntType) where
  val : Int
  lo_le : t.lo ≤ val
  le_hi : val ≤ t.hi
  deriving DecidableEq

namespace Bounded

variable {t : IntType}

def ofInt? (t : IntType) (n : Int) : Option (Bounded t) :=
  if h : t.lo ≤ n ∧ n ≤ t.hi then some ⟨n, h.1, h.2⟩ else none

def zero (t : IntType) : Bounded t := ⟨0, by cases t <;> decide, by cases t <;> decide⟩

/-- The number, or the greatest one of the type if it is greater. -/
def ofNat (t : IntType) (n : Nat) : Bounded t :=
  ⟨min (n : Int) t.hi,
    by have : t.lo ≤ 0 ∧ t.lo ≤ t.hi := by cases t <;> decide
       omega,
    by omega⟩

/-- Reads digits from left to right after those that gave `n`, away from zero if `negative`. At each
digit the product by ten has to fit, and then the sum. -/
def readDigits (negative : Bool) (n : Bounded t) : List Char → Except ScalarError (Bounded t)
  | [] => .ok n
  | c :: rest =>
    let overflow : ScalarError := if negative then .tooSmall else .tooLarge
    match digitValue? c with
    | none => .error .invalidDigit
    | some d =>
      match ofInt? t (n.val * 10) with
      | none => .error overflow
      | some m =>
        match ofInt? t (if negative then m.val - d else m.val + d) with
        | none => .error overflow
        | some m => readDigits negative m rest

/-- Reads a number with an optional sign; only signed types have negative numbers. -/
def read (t : IntType) (s : String) : Except ScalarError (Bounded t) :=
  match s.toList with
  | [] => .error .emptyInteger
  | ['+'] | ['-'] => .error .invalidDigit
  | '+' :: digits => readDigits false (zero t) digits
  | '-' :: digits =>
    if t.signed then readDigits true (zero t) digits
    else readDigits false (zero t) ('-' :: digits)
  | digits => readDigits false (zero t) digits

end Bounded

end StepPhrase
