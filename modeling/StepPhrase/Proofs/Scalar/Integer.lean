import Mathlib.Data.Nat.Digits.Defs
import StepPhrase.Proofs.Pattern.Cut
import StepPhrase.Proofs.Pattern.Types
import StepPhrase.Proofs.Scalar.Reading
import StepPhrase.Suite.Record

/-! Which texts are read as integers, and which integers they are. -/
namespace StepPhrase

open Regex Text Unicode Lexeme

variable {κ : Type} [RecordKind κ] {t : IntType} {n m : Bounded t} {negative : Bool} {c : Char}
  {s w : List Char} {a b k : Nat} {x y : Int} {text : String} {type : ParameterType κ}

namespace Lexeme

def IsAsciiDigits (s : List Char) : Prop := s ≠ [] ∧ ∀ c ∈ s, c.isDigit = true

/-- The number that decimal digits stand for, the last of them the units. -/
def decimal (digits : List Char) : Nat :=
  Nat.ofDigits 10 (digits.reverse.map fun c => c.toNat - '0'.toNat)

theorem decimal_cons :
    decimal (c :: s) = (c.toNat - '0'.toNat) * 10 ^ s.length + decimal s := by
  rw [decimal, List.reverse_cons, List.map_append, Nat.ofDigits_append, ← decimal, List.length_map,
    List.length_reverse, List.map_singleton, Nat.ofDigits_singleton, Nat.add_comm, Nat.mul_comm]

theorem digitValue?_eq_some_iff :
    digitValue? c = some k ↔ c.isDigit = true ∧ k = c.toNat - '0'.toNat := by
  rw [← isSome_digitValue?_iff]
  unfold digitValue?
  split
  · simp [eq_comm]
  · simp

end Lexeme

namespace IntType

/-- The text is a numeral for the integer: ASCII digits after an optional sign, which is a minus
only in signed types. -/
inductive Numeral (t : IntType) : List Char → Int → Prop
  | plain {w : List Char} : IsAsciiDigits w → Numeral t w (decimal w)
  | plus {w : List Char} : IsAsciiDigits w → Numeral t ('+' :: w) (decimal w)
  | minus {w : List Char} :
    t.signed = true → IsAsciiDigits w → Numeral t ('-' :: w) (-decimal w)

theorem numeral_plus_iff : t.Numeral ('+' :: w) x ↔ IsAsciiDigits w ∧ x = decimal w := by
  constructor
  · intro h
    cases h with
    | plain h => exact absurd (h.2 _ List.mem_cons_self) (by decide)
    | plus h => exact ⟨h, rfl⟩
  · rintro ⟨h, rfl⟩
    exact .plus h

theorem numeral_minus_iff :
    t.Numeral ('-' :: w) x ↔ t.signed = true ∧ IsAsciiDigits w ∧ x = -decimal w := by
  constructor
  · intro h
    cases h with
    | plain h => exact absurd (h.2 _ List.mem_cons_self) (by decide)
    | minus hsigned h => exact ⟨hsigned, h, rfl⟩
  · rintro ⟨hsigned, h, rfl⟩
    exact .minus hsigned h

theorem numeral_iff_of_ne (hplus : ∀ w, s ≠ '+' :: w) (hminus : ∀ w, s ≠ '-' :: w) :
    t.Numeral s x ↔ IsAsciiDigits s ∧ x = decimal s := by
  constructor
  · intro h
    cases h with
    | plain h => exact ⟨h, rfl⟩
    | plus h => exact absurd rfl (hplus _)
    | minus hsigned h => exact absurd rfl (hminus _)
  · rintro ⟨h, rfl⟩
    exact .plain h

/-- A text is a numeral for one integer at most. -/
theorem Numeral.unique (h : t.Numeral s x) (h' : t.Numeral s y) : x = y := by
  cases h with
  | plain h =>
    cases h' with
    | plain => rfl
    | plus => exact absurd (h.2 _ List.mem_cons_self) (by decide)
    | minus => exact absurd (h.2 _ List.mem_cons_self) (by decide)
  | plus h => exact (numeral_plus_iff.1 h').2.symm
  | minus hsigned h => exact (numeral_minus_iff.1 h').2.2.symm

theorem Numeral.isDigit (h : t.Numeral s x) (hc : c ∈ s) (hdecimal : isDecimal c = true) :
    c.isDigit = true := by
  cases h with
  | plain h => exact h.2 c hc
  | plus h =>
    rcases List.mem_cons.1 hc with rfl | hc
    · exact absurd hdecimal (by decide +kernel)
    · exact h.2 c hc
  | minus hsigned h =>
    rcases List.mem_cons.1 hc with rfl | hc
    · exact absurd hdecimal (by decide +kernel)
    · exact h.2 c hc

theorem name_injective : Function.Injective name := by
  intro t t' h
  cases t
  all_goals
    cases t'
    all_goals first
    | rfl
    | exact absurd h (by decide)

end IntType

namespace Bounded

/-- The number so far from zero, below it if `negative`. -/
def away (negative : Bool) (k : Nat) : Int := if negative then -k else k

theorem val_injective : Function.Injective (val : Bounded t → Int) := by
  rintro ⟨n, _, _⟩ ⟨m, _, _⟩ h
  cases h
  rfl

theorem ofInt?_eq_some_iff : ofInt? t x = some m ↔ m.val = x := by
  unfold ofInt?
  split
  · rw [Option.some.injEq, ← val_injective.eq_iff, eq_comm]
  · rename_i h
    refine iff_of_false (nomatch ·) ?_
    rintro rfl
    exact h ⟨m.lo_le, m.le_hi⟩

/-- What lies between zero and a number of the type is in its range. -/
theorem exists_away_of_le (hle : a ≤ b) (hm : m.val = away negative b) :
    ∃ p : Bounded t, p.val = away negative a := by
  have hlo : t.lo ≤ 0 := (zero t).lo_le
  have hhi : 0 ≤ t.hi := (zero t).le_hi
  have hmlo := m.lo_le
  have hmhi := m.le_hi
  refine ⟨⟨away negative a, ?_, ?_⟩, rfl⟩
  all_goals
    unfold away at hm ⊢
    split at hm
    all_goals simp_all only [if_true, if_false, Bool.false_eq_true]; omega

theorem away_mul : away negative k * 10 = away negative (k * 10) := by
  unfold away
  split
  all_goals omega

theorem away_add : (if negative then away negative a - b else away negative a + b) =
    away negative (a + b) := by
  unfold away
  split
  all_goals omega

/-- A digit is taken if ten times the number and the value of the digit stay in the range. -/
theorem readDigits_cons_eq_ok_iff (h : n.val = away negative k) :
    readDigits negative n (c :: s) = .ok m ↔ c.isDigit = true ∧
      ∃ p : Bounded t, p.val = away negative (k * 10 + (c.toNat - '0'.toNat)) ∧
        readDigits negative p s = .ok m := by
  rw [readDigits, h, away_mul]
  cases hvalue : digitValue? c with
  | none =>
    refine iff_of_false (nomatch ·) fun ⟨hdigit, _⟩ => ?_
    rw [← isSome_digitValue?_iff, hvalue] at hdigit
    cases hdigit
  | some d =>
    obtain ⟨hdigit, hd⟩ := digitValue?_eq_some_iff.1 hvalue
    rw [and_iff_right hdigit, ← hd]
    dsimp only
    cases htens : ofInt? t (away negative (k * 10)) with
    | none =>
      -- The product lies between zero and the sum, so that there is no sum either.
      refine iff_of_false (nomatch ·) ?_
      rintro ⟨p, hp, -⟩
      obtain ⟨q, hq⟩ := exists_away_of_le (Nat.le_add_right (k * 10) d) hp
      cases htens.symm.trans (ofInt?_eq_some_iff.2 hq)
    | some q =>
      dsimp only
      rw [ofInt?_eq_some_iff.1 htens, away_add]
      cases hsum : ofInt? t (away negative (k * 10 + d)) with
      | none =>
        refine iff_of_false (nomatch ·) ?_
        rintro ⟨p, hp, -⟩
        cases hsum.symm.trans (ofInt?_eq_some_iff.2 hp)
      | some p =>
        constructor
        · exact fun hread => ⟨p, ofInt?_eq_some_iff.1 hsum, hread⟩
        · rintro ⟨p', hp', hread⟩
          cases hsum.symm.trans (ofInt?_eq_some_iff.2 hp')
          exact hread

/-- Of digits read after those of `k`, the number is the one that all of them stand for. -/
theorem readDigits_eq_ok_iff (h : n.val = away negative k) :
    readDigits negative n s = .ok m ↔ (∀ c ∈ s, c.isDigit = true) ∧
      m.val = away negative (k * 10 ^ s.length + decimal s) := by
  induction s generalizing n k with
  | nil =>
    have hnil : decimal [] = 0 := rfl
    rw [readDigits, Except.ok.injEq, ← val_injective.eq_iff, h, hnil, eq_comm]
    simp
  | cons c s ih =>
    have hsum : k * 10 ^ (c :: s).length + decimal (c :: s) =
        (k * 10 + (c.toNat - '0'.toNat)) * 10 ^ s.length + decimal s := by
      rw [decimal_cons, List.length_cons]
      ring
    rw [readDigits_cons_eq_ok_iff h, List.forall_mem_cons, and_assoc, hsum]
    refine and_congr_right fun _ => ?_
    constructor
    · rintro ⟨p, hp, hread⟩
      exact (ih hp).1 hread
    · rintro ⟨hdigits, hm⟩
      have hle : k * 10 + (c.toNat - '0'.toNat) ≤
          (k * 10 + (c.toNat - '0'.toNat)) * 10 ^ s.length + decimal s :=
        Nat.le_add_right_of_le (Nat.le_mul_of_pos_right _ (Nat.pow_pos (by decide)))
      obtain ⟨p, hp⟩ := exists_away_of_le hle hm
      exact ⟨p, hp, (ih hp).2 ⟨hdigits, hm⟩⟩

theorem readDigits_zero_eq_ok_iff (hs : s ≠ []) :
    readDigits negative (zero t) s = .ok m ↔
      IsAsciiDigits s ∧ m.val = away negative (decimal s) := by
  have hzero : (zero t).val = away negative 0 := by cases negative <;> rfl
  rw [readDigits_eq_ok_iff hzero, Nat.zero_mul, Nat.zero_add, IsAsciiDigits, and_iff_right hs]

theorem read_eq_ok_iff : Bounded.read t text = .ok n ↔ t.Numeral text.toList n.val := by
  unfold Bounded.read
  split
  · rename_i heq
    rw [heq, IntType.numeral_iff_of_ne (by simp) (by simp)]
    exact iff_of_false (nomatch ·) fun h => h.1.1 rfl
  · rename_i heq
    rw [heq, IntType.numeral_plus_iff]
    exact iff_of_false (nomatch ·) fun h => h.1.1 rfl
  · rename_i heq
    rw [heq, IntType.numeral_minus_iff]
    exact iff_of_false (nomatch ·) fun h => h.2.1.1 rfl
  · rename_i digits hne heq
    rw [heq, IntType.numeral_plus_iff]
    exact readDigits_zero_eq_ok_iff (by rintro rfl; exact hne rfl)
  · rename_i digits hne heq
    rw [heq, IntType.numeral_minus_iff]
    split
    · rename_i hsigned
      rw [and_iff_right hsigned]
      exact readDigits_zero_eq_ok_iff (by rintro rfl; exact hne rfl)
    · rename_i hsigned
      rw [readDigits_zero_eq_ok_iff (List.cons_ne_nil _ _)]
      exact iff_of_false (fun h => absurd (h.1.2 _ List.mem_cons_self) (by decide))
        fun h => hsigned h.1
  · rename_i hnil _ _ hplus hminus
    rw [IntType.numeral_iff_of_ne hplus hminus]
    exact readDigits_zero_eq_ok_iff hnil

end Bounded

theorem ParameterTypes.get?_builtin_int :
    (builtin : ParameterTypes κ).get? t.name = some (.int t) := by
  have hname : t.name ∈ builtinNames := by cases t <;> decide
  cases hget : (builtin : ParameterTypes κ).get? t.name with
  | none => exact absurd hname (notMem_builtinNames hget)
  | some type =>
    rcases eq_of_get?_builtin hget with
      ⟨t', hint, rfl⟩ | ⟨f, hint, -⟩ | ⟨hint, -⟩ | ⟨hint, -⟩ | ⟨hint, -⟩
    · rw [IntType.name_injective hint]
    · cases t <;> cases f <;> exact absurd hint (by decide)
    all_goals cases t <;> exact absurd hint (by decide)

theorem Cell.int_eq_ok_iff : Cell.int t text = .ok n ↔ t.Numeral text.toList n.val := by
  rw [Cell.int, Cell.scalar, mapError_eq_ok_iff, Bounded.read_eq_ok_iff]

namespace ParameterType

/-- The fragment of the type matches the text from its start to its end. -/
def Takes (type : ParameterType κ) (text : String) : Prop :=
  ∃ r, Regex.compile ("^(" ++ type.fragment ++ ")$") = .ok r ∧ r.isMatch text = true

theorem Ready.cut_slot_iff {L : List Char → Prop} (h : type.Ready L) (name : String) :
    (∃ args, Piece.Cut [.slot name type] [] s args) ↔ L s := by
  constructor
  · rintro ⟨args, hcut⟩
    cases hcut with
    | slot hw hrest =>
      cases hrest
      rw [List.append_nil]
      exact h.fragment.language.consumes_iff.1 hw
  · intro hs
    rw [← List.append_nil s]
    exact ⟨_, .slot (h.fragment.language.consumes_iff.2 hs) .nil⟩

theorem Ready.takes_iff {L : List Char → Prop} {r : Regex} (h : type.Ready L)
    (hr : Regex.compile ("^(" ++ type.fragment ++ ")$") = .ok r) :
    type.Takes text ↔ L text.toList := by
  have hsource : Piece.sourceOf [.slot "" type] = "^(" ++ type.fragment ++ ")$" := by
    rw [← String.toList_inj]
    simp [Piece.sourceOf, Piece.source]
  have hreadable : Piece.Readable [.slot "" type] := by
    intro name type' hmem
    cases List.mem_singleton.1 hmem
    exact ⟨h.fragment.whole, h.fragment.closes⟩
  have hmatch : r.isMatch text = true ↔ L text.toList := by
    rw [← h.cut_slot_iff ""]
    exact Piece.isSome_captures?_iff hreadable (hsource ▸ hr)
  simp only [Takes, hr, Except.ok.injEq, exists_eq_left', hmatch]

theorem exists_compile_int :
    ∃ r, Regex.compile ("^(" ++ (int t : ParameterType κ).fragment ++ ")$") = .ok r := by
  have hsigned : ∃ r, Regex.compile ("^(" ++ Fragment.signed ++ ")$") = .ok r ∧ True :=
    exists_ok_of_any (by decide +kernel)
  have hunsigned : ∃ r, Regex.compile ("^(" ++ Fragment.unsigned ++ ")$") = .ok r ∧ True :=
    exists_ok_of_any (by decide +kernel)
  simp only [and_true] at hsigned hunsigned
  unfold int
  dsimp only
  split
  · exact hsigned
  · exact hunsigned

theorem takes_int_iff : (int t : ParameterType κ).Takes text ↔
    if t.signed then IsSigned text.toList else IsDigits text.toList := by
  have hlanguage : language (some t.name) = if t.signed then IsSigned else IsDigits := by
    cases t <;> rfl
  have hready : (int t : ParameterType κ).Ready (language (some t.name)) :=
    ParameterTypes.ready_of_get?_builtin ParameterTypes.get?_builtin_int
  obtain ⟨r, hr⟩ := exists_compile_int (κ := κ) (t := t)
  rw [hready.takes_iff hr, hlanguage]
  split
  · rfl
  · rfl

theorem value_int_eq_ok_iff {v : Value κ} : (int t).value text = .ok v ↔
    ∃ n : Bounded t, t.Numeral text.toList n.val ∧ v = ⟨.int t, n⟩ := by
  rw [value_eq_ok_iff]
  exact map_eq_ok_iff.trans (exists_congr fun n => and_congr Cell.int_eq_ok_iff eq_comm)

theorem exists_value_int_iff : (∃ v, (int t : ParameterType κ).value text = .ok v) ↔
    ∃ x, t.Numeral text.toList x ∧ t.lo ≤ x ∧ x ≤ t.hi := by
  simp only [value_int_eq_ok_iff]
  constructor
  · rintro ⟨v, n, hn, -⟩
    exact ⟨n.val, hn, n.lo_le, n.le_hi⟩
  · rintro ⟨x, hx, hlo, hhi⟩
    exact ⟨_, ⟨x, hlo, hhi⟩, hx, rfl⟩

theorem exists_refused_iff :
    (∃ cause, type.value text = .error (.refused type.name text cause)) ↔
      ¬∃ v, type.value text = .ok v := by
  rw [← exists_eq_error_iff]
  constructor
  · rintro ⟨cause, hrefused⟩
    exact ⟨_, hrefused⟩
  · rintro ⟨e, he⟩
    obtain ⟨cause, -, rfl⟩ := value_eq_error_iff.1 he
    exact ⟨cause, he⟩

/-- The digits of a text that the fragment takes are in ASCII just if it is a numeral. -/
theorem exists_numeral_iff (h : (int t : ParameterType κ).Takes text) :
    (∃ x, t.Numeral text.toList x) ↔ ∀ c ∈ text.toList, isDecimal c = true → c.isDigit = true := by
  constructor
  · rintro ⟨x, hx⟩ c hc hdecimal
    exact hx.isDigit hc hdecimal
  · intro hascii
    have hdigits : ∀ w, w ⊆ text.toList → IsDigits w → IsAsciiDigits w :=
      fun w hw hdigits => ⟨hdigits.1, fun c hc => hascii c (hw hc) (hdigits.2 c hc)⟩
    rw [takes_int_iff] at h
    split at h
    · rename_i hsigned
      obtain ⟨sign, w, heq, hsign, hw⟩ := h
      have hw := hdigits w (heq ▸ List.subset_append_right sign w) hw
      rw [heq]
      rcases hsign with rfl | rfl | rfl
      · exact ⟨_, .plain hw⟩
      · exact ⟨_, .plus hw⟩
      · exact ⟨_, .minus hsigned hw⟩
    · exact ⟨_, .plain (hdigits _ (List.Subset.refl _) h)⟩

theorem exists_error_int_iff (h : (int t : ParameterType κ).Takes text) :
    (∃ e, (int t : ParameterType κ).value text = .error e) ↔
      (∃ c ∈ text.toList, isDecimal c = true ∧ c.isDigit = false) ∨
        ∃ x, t.Numeral text.toList x ∧ ¬(t.lo ≤ x ∧ x ≤ t.hi) := by
  rw [exists_eq_error_iff, exists_value_int_iff]
  constructor
  · intro hrange
    by_cases hnumeral : ∃ x, t.Numeral text.toList x
    · obtain ⟨x, hx⟩ := hnumeral
      exact .inr ⟨x, hx, fun hin => hrange ⟨x, hx, hin⟩⟩
    · rw [exists_numeral_iff h] at hnumeral
      push Not at hnumeral
      obtain ⟨c, hc, hdecimal, hdigit⟩ := hnumeral
      exact .inl ⟨c, hc, hdecimal, Bool.eq_false_iff.2 hdigit⟩
  · rintro (⟨c, hc, hdecimal, hdigit⟩ | ⟨x, hx, hout⟩) ⟨y, hy, hin⟩
    · exact Bool.false_ne_true (hdigit.symm.trans (hy.isDigit hc hdecimal))
    · cases hx.unique hy
      exact hout hin

end ParameterType

/-- Each type of integers has its name. Texts that are numerals for its numbers become these, all
others are refused: of those that its fragment takes, the ones with digits beyond ASCII, and the
numerals beyond its range. -/
theorem integers_exact_or_refused (t : IntType) :
    ∃ type : ParameterType κ, ParameterTypes.builtin.get? t.name = some type ∧ ∀ s : String,
      (∀ v, type.value s = .ok v ↔
        ∃ n : Bounded t, t.Numeral s.toList n.val ∧ v = ⟨.int t, n⟩) ∧
      ((∃ cause, type.value s = .error (.refused t.name s cause)) ↔
        ¬∃ x, t.Numeral s.toList x ∧ t.lo ≤ x ∧ x ≤ t.hi) ∧
      (type.Takes s → ((∃ e, type.value s = .error e) ↔
        (∃ c ∈ s.toList, isDecimal c = true ∧ c.isDigit = false) ∨
          ∃ x, t.Numeral s.toList x ∧ ¬(t.lo ≤ x ∧ x ≤ t.hi))) := by
  refine ⟨.int t, ParameterTypes.get?_builtin_int, fun s =>
    ⟨fun v => ParameterType.value_int_eq_ok_iff, ?_, ParameterType.exists_error_int_iff⟩⟩
  rw [← ParameterType.exists_value_int_iff (κ := κ)]
  exact ParameterType.exists_refused_iff

/-- The least number of eight bits is read, zeros before its digits too, and the number before it is
refused, as are digits of other scripts. -/
theorem integers_exact_or_refused_least :
    ∃ (type : ParameterType Suite.RecordType) (least : Bounded .i8),
      ParameterTypes.builtin.get? "i8" = some type ∧ least.val = -128 ∧
        type.value "-00128" = .ok ⟨.int .i8, least⟩ ∧
        type.Takes "-129" ∧ (∃ cause, type.value "-129" = .error (.refused "i8" "-129" cause)) ∧
        type.Takes "٣" ∧ ∃ e, type.value "٣" = .error e := by
  obtain ⟨type, htype, hread⟩ := integers_exact_or_refused (κ := Suite.RecordType) .i8
  cases htype.symm.trans ParameterTypes.get?_builtin_int
  let least : Bounded .i8 := ⟨-128, by decide, by decide⟩
  have hdigits : IsAsciiDigits ['0', '0', '1', '2', '8'] :=
    ⟨by decide, forall_mem_of_all (by decide)⟩
  have hdigits' : IsAsciiDigits ['1', '2', '9'] := ⟨by decide, forall_mem_of_all (by decide)⟩
  have hleast : IntType.Numeral .i8 "-00128".toList least.val := .minus rfl hdigits
  have hbelow : IntType.Numeral .i8 "-129".toList (-129) := .minus rfl hdigits'
  have htakes : (ParameterType.int .i8 : ParameterType Suite.RecordType).Takes "-129" :=
    ParameterType.takes_int_iff.2 ⟨['-'], ['1', '2', '9'], rfl, .inr (.inr rfl),
      by decide, forall_mem_of_all (by decide +kernel)⟩
  have hthree : (ParameterType.int .i8 : ParameterType Suite.RecordType).Takes "٣" :=
    ParameterType.takes_int_iff.2 ⟨[], ['٣'], rfl, .inl rfl, by decide,
      forall_mem_of_all (by decide +kernel)⟩
  refine ⟨_, least, htype, rfl, ((hread _).1 _).2 ⟨least, hleast, rfl⟩, htakes,
    (hread _).2.1.2 ?_, hthree, ((hread _).2.2 hthree).2 (.inl ?_)⟩
  · rintro ⟨x, hx, hlo, -⟩
    cases hx.unique hbelow
    exact absurd hlo (by decide)
  · exact ⟨'٣', List.mem_cons_self, by decide +kernel, by decide⟩

end StepPhrase
