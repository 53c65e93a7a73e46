import StepPhrase.Proofs.Pattern.Source
import StepPhrase.Proofs.Regex.Language
import StepPhrase.Proofs.Unicode.Folding
import StepPhrase.Unicode.Decimal

/-! The languages of the fragments that stand ready. -/
namespace StepPhrase

open Regex Unicode

namespace Lexeme

/-- One or more characters on one line. -/
def IsText (w : List Char) : Prop := w ≠ [] ∧ ∀ c ∈ w, c ≠ '\n'

/-- One or more characters that are not white space. -/
def IsWord (w : List Char) : Prop := w ≠ [] ∧ ∀ c ∈ w, isBlank c = false

/-- One or more decimal digits of any script. -/
def IsDigits (w : List Char) : Prop := w ≠ [] ∧ ∀ c ∈ w, isDecimal c = true

def IsSign (w : List Char) : Prop := w = [] ∨ w = ['+'] ∨ w = ['-']

/-- Digits after an optional sign. -/
def IsSigned (w : List Char) : Prop :=
  ∃ sign digits, w = sign ++ digits ∧ IsSign sign ∧ IsDigits digits

/-- Digits with a point behind or among them, digits after a point, or digits. -/
def IsMantissa (w : List Char) : Prop :=
  (∃ whole fraction, w = whole ++ '.' :: fraction ∧ IsDigits whole ∧
    ∀ c ∈ fraction, isDecimal c = true) ∨
  (∃ fraction, w = '.' :: fraction ∧ IsDigits fraction) ∨ IsDigits w

def IsExponent (w : List Char) : Prop :=
  w = [] ∨ ∃ mark power, w = mark :: power ∧ (mark = 'e' ∨ mark = 'E') ∧ IsSigned power

/-- The texts differ in case at most. -/
def SameFolded (w v : List Char) : Prop :=
  w.map (fun c => Folding.fold c.toNat) = v.map (fun c => Folding.fold c.toNat)

def IsFloat (w : List Char) : Prop :=
  (∃ sign mantissa exponent, w = sign ++ (mantissa ++ exponent) ∧
    IsSign sign ∧ IsMantissa mantissa ∧ IsExponent exponent) ∨
  SameFolded w "nan".toList ∨ SameFolded w "inf".toList ∨ SameFolded w "infinity".toList

def IsBool (w : List Char) : Prop := SameFolded w "true".toList ∨ SameFolded w "false".toList

end Lexeme

open Lexeme

namespace Fragment

variable {w : List Char} {c : Char} {n : Node} {L M : List Char → Prop}

def line : Node := .times 1 none false (.set true (CharSet.char '\n').compl)

def nonblank : Node := .times 1 none true (.set true whiteSpace.compl)

def digits : Node := .times 1 none true (.set true decimalDigits)

def sign : Node := .times 0 (some 1) true (.set true ⟨['+'.toNat, '-'.toNat].map fun k => (k, k)⟩)

/-- The letters of a word, each in any case. -/
def folded : List Char → Node
  | [] => .empty
  | [c] => .set true (Folding.anyCase c)
  | c :: rest => .cat (.set true (Folding.anyCase c)) (folded rest)

def truth : Node := .alt (folded "true".toList) (folded "false".toList)

def mantissa : Node :=
  .alt (.cat digits (.cat (.literal ['.']) (.times 0 none true (.set true decimalDigits))))
    (.alt (.cat (.literal ['.']) digits) digits)

def exponent : Node :=
  .times 0 (some 1) true (.cat (.set true (Folding.anyCase 'e')) (.cat sign digits))

def number : Node := .cat sign (.cat mantissa exponent)

theorem language_digits : digits.HasLanguage IsDigits := Node.language_plus

theorem language_sign : sign.HasLanguage IsSign := by
  apply (Node.HasLanguage.optional Node.language_set).congr
  intro w
  have hset : ∀ c, CharSet.contains ⟨['+'.toNat, '-'.toNat].map fun k => (k, k)⟩ c = true ↔
      c = '+' ∨ c = '-' := fun c => CharSet.contains_pair_iff (by decide)
  simp only [hset]
  constructor
  · rintro (rfl | ⟨c, rfl, rfl | rfl⟩)
    · exact .inl rfl
    · exact .inr (.inl rfl)
    · exact .inr (.inr rfl)
  · rintro (rfl | rfl | rfl)
    · exact .inl rfl
    · exact .inr ⟨'+', rfl, .inl rfl⟩
    · exact .inr ⟨'-', rfl, .inr rfl⟩

theorem language_signed : (Node.cat sign digits).HasLanguage IsSigned :=
  language_sign.cat language_digits

theorem language_anyCase (hc : c ∈ Folding.letters) :
    (Node.set true (Folding.anyCase c)).HasLanguage (SameFolded · [c]) := by
  apply Node.language_set.congr
  intro w
  simp only [Folding.contains_anyCase_iff hc, SameFolded, List.map_cons, List.map_nil,
    List.map_eq_singleton_iff, Folding.fold_letter hc]

theorem language_folded (hw : w ≠ []) (hc : ∀ c ∈ w, c ∈ Folding.letters) :
    (folded w).HasLanguage (SameFolded · w) := by
  induction w with
  | nil => exact absurd rfl hw
  | cons c w ih =>
    cases w with
    | nil => exact language_anyCase (hc c List.mem_cons_self)
    | cons d w =>
      refine ((language_anyCase (hc c List.mem_cons_self)).cat
        (ih (List.cons_ne_nil _ _) fun e he => hc e (List.mem_cons_of_mem _ he))).congr fun v => ?_
      constructor
      · rintro ⟨y, z, rfl, hy, hz⟩
        simp only [SameFolded] at hy hz ⊢
        rw [List.map_append, hy, hz]
        rfl
      · intro hv
        cases v with
        | nil => cases hv
        | cons b v =>
          simp only [SameFolded, List.map_cons, List.cons.injEq] at hv
          exact ⟨[b], v, rfl, by simp [SameFolded, hv.1], by simp [SameFolded, hv.2]⟩

theorem language_letters (hw : w ≠ []) (hc : w.all (fun c => decide (c ∈ Folding.letters)) = true) :
    (folded w).HasLanguage (SameFolded · w) :=
  language_folded hw (forall_mem_of_all hc)

theorem language_point : (Node.literal ['.']).HasLanguage (· = ['.']) := Node.language_literal

theorem language_mantissa : mantissa.HasLanguage IsMantissa := by
  refine ((language_digits.cat (language_point.cat Node.language_star)).alt
    ((language_point.cat language_digits).alt language_digits)).congr fun w => ?_
  constructor
  · rintro (⟨whole, -, rfl, hwhole, -, fraction, rfl, rfl, hfraction⟩ |
      ⟨-, fraction, rfl, rfl, hfraction⟩ | hdigits)
    · exact .inl ⟨whole, fraction, rfl, hwhole, hfraction⟩
    · exact .inr (.inl ⟨fraction, rfl, hfraction⟩)
    · exact .inr (.inr hdigits)
  · rintro (⟨whole, fraction, rfl, hwhole, hfraction⟩ | ⟨fraction, rfl, hfraction⟩ | hdigits)
    · exact .inl ⟨whole, _, rfl, hwhole, ['.'], fraction, rfl, rfl, hfraction⟩
    · exact .inr (.inl ⟨['.'], fraction, rfl, rfl, hfraction⟩)
    · exact .inr (.inr hdigits)

theorem language_exponent : exponent.HasLanguage IsExponent := by
  apply (Node.language_set.cat language_signed).optional.congr
  intro w
  have hset : ∀ c, (Folding.anyCase 'e').contains c = true ↔ c = 'E' ∨ c = 'e' :=
    fun c => CharSet.contains_pair_iff (a := 'E') (b := 'e') (by decide)
  simp only [hset]
  refine or_congr Iff.rfl ⟨?_, ?_⟩
  · rintro ⟨-, power, rfl, ⟨mark, rfl, hmark⟩, hpower⟩
    exact ⟨mark, power, rfl, hmark.symm, hpower⟩
  · rintro ⟨mark, power, rfl, hmark, hpower⟩
    exact ⟨[mark], power, rfl, ⟨mark, rfl, hmark.symm⟩, hpower⟩

theorem language_number : number.HasLanguage fun w => ∃ sign mantissa exponent,
    w = sign ++ (mantissa ++ exponent) ∧ IsSign sign ∧ IsMantissa mantissa ∧ IsExponent exponent := by
  apply (language_sign.cat (language_mantissa.cat language_exponent)).congr
  intro w
  constructor
  · rintro ⟨sign, -, rfl, hsign, mantissa, exponent, rfl, hmantissa, hexponent⟩
    exact ⟨sign, mantissa, exponent, rfl, hsign, hmantissa, hexponent⟩
  · rintro ⟨sign, mantissa, exponent, rfl, hsign, hmantissa, hexponent⟩
    exact ⟨sign, _, rfl, hsign, mantissa, exponent, rfl, hmantissa, hexponent⟩

/-- The fragment is closed and opens no group, and this is its language. -/
structure Ready (fragment : String) (L : List Char → Prop) : Prop where
  whole : Whole fragment.toList
  closes : Sealed fragment.toList
  opened : (Reading.ofText fragment.toList).groups = 0
  names : (Reading.ofText fragment.toList).names = []
  height : (Reading.ofText fragment.toList).body.height ≤ 100
  language : (Reading.ofText fragment.toList).body.node.HasLanguage L

/-- Whether the text is read as the tree, without groups and out of verbose mode. -/
def readsAs (f : List Char) (n : Node) : Bool :=
  match Reading.run f.length {} f with
  | none => false
  | some r => r.outer.isEmpty && !r.flags.verbose && r.groups == 0 && r.names.isEmpty &&
      r.body.height ≤ 100 && r.body.node = n

theorem ready_of {fragment : String} (h : readsAs fragment.toList n = true)
    (hL : n.HasLanguage L) : Ready fragment L := by
  unfold readsAs at h
  split at h
  · cases h
  · rename_i r hrun
    simp only [Bool.and_eq_true, List.isEmpty_iff, Bool.not_eq_true', beq_iff_eq,
      decide_eq_true_eq] at h
    obtain ⟨⟨⟨⟨⟨houter, hverbose⟩, hgroups⟩, hnames⟩, hheight⟩, rfl⟩ := h
    have hof : Reading.ofText fragment.toList = r := by simp [Reading.ofText, hrun]
    have hwhole : Whole fragment.toList := by
      refine ⟨hof ▸ hrun, hof ▸ houter, hof ▸ Nat.le_trans hheight (by decide)⟩
    exact ⟨hwhole, hwhole.sealed (hof ▸ hverbose), hof ▸ hgroups, hof ▸ hnames, hof ▸ hheight,
      hof ▸ hL⟩

theorem node_of_readsAs {f : List Char} (h : readsAs f n = true) :
    (Reading.ofText f).body.node = n := by
  unfold readsAs at h
  split at h
  · cases h
  · rename_i r hrun
    simp only [Bool.and_eq_true, decide_eq_true_eq] at h
    simp [Reading.ofText, hrun, h.2]

theorem readsAs_text : readsAs text.toList line = true := by decide +kernel

theorem readsAs_word : readsAs word.toList nonblank = true := by decide +kernel

theorem readsAs_unsigned : readsAs unsigned.toList digits = true := by decide +kernel

theorem readsAs_signed : readsAs signed.toList (.cat sign digits) = true := by decide +kernel

theorem readsAs_bool : readsAs bool.toList truth = true := by decide +kernel

theorem ready_text : Ready text IsText := by
  refine ready_of readsAs_text (Node.language_plus.congr fun w => ?_)
  simp only [CharSet.contains_compl_newline_iff, IsText]

theorem ready_word : Ready word IsWord := by
  refine ready_of readsAs_word (Node.language_plus.congr fun w => ?_)
  simp only [CharSet.contains_compl_whiteSpace_iff, IsWord]

theorem ready_unsigned : Ready unsigned IsDigits := ready_of readsAs_unsigned language_digits

theorem ready_signed : Ready signed IsSigned := ready_of readsAs_signed language_signed

theorem ready_bool : Ready bool IsBool :=
  ready_of readsAs_bool
    ((language_letters (by decide) (by decide)).alt (language_letters (by decide) (by decide)))

theorem ready_float : Ready float IsFloat :=
  ready_of (n := .alt number (.alt (folded "nan".toList)
      (.alt (folded "inf".toList) (folded "infinity".toList)))) (by decide +kernel)
    (language_number.alt ((language_letters (by decide) (by decide)).alt
      ((language_letters (by decide) (by decide)).alt (language_letters (by decide) (by decide)))))

end Fragment

end StepPhrase
