import StepPhrase.Proofs.Except
import StepPhrase.Proofs.Pattern.Fragments
import StepPhrase.Proofs.Text.Ascii
import StepPhrase.Scalar.Cell

/-! Which texts are read as floats and truth values. -/
namespace StepPhrase

open Text Lexeme Unicode

variable {L : List Char → Prop} {s v whole fraction tail : List Char} {t : FloatType} {negative : Bool} {text : String}

namespace Lexeme

theorem isDigits_iff_of_isAscii (h : IsAscii s) :
    IsDigits s ↔ s ≠ [] ∧ ∀ c ∈ s, c.isDigit = true := by
  refine and_congr Iff.rfl ⟨fun hs c hc => isDigit_of_isDecimal (h c hc) (hs c hc),
    fun hs c hc => isDecimal_of_isDigit (hs c hc)⟩

theorem sameFolded_iff_of_isAscii (hs : IsAscii s) (hv : IsAscii v) :
    SameFolded s v ↔ s.map Char.toLower = v.map Char.toLower := by
  have hmap : ∀ w, IsAscii w →
      w.map (fun c => Folding.fold c.toNat) = (w.map Char.toLower).map Char.toNat := by
    intro w hw
    rw [List.map_map]
    exact List.map_congr_left fun c hc => fold_eq_toLower (hw c hc)
  rw [SameFolded, hmap s hs, hmap v hv]
  exact (List.map_injective_iff.2 fun c d => Char.toNat_inj.1).eq_iff

/-- The text is the word in any case just if it is so in ASCII. -/
theorem toLower_eq_iff_of_small {w : String} (hlower : w.toList.map Char.toLower = w.toList)
    (hascii : IsAscii w.toList) : String.ofList (s.map Char.toLower) = w ↔
      IsAscii s ∧ SameFolded s w.toList := by
  have hword : IsAscii s → (SameFolded s w.toList ↔ String.ofList (s.map Char.toLower) = w) := by
    intro hs
    rw [sameFolded_iff_of_isAscii hs hascii, hlower, ← String.toList_inj, String.toList_ofList]
  refine ⟨fun h => ?_, fun h => (hword h.1).1 h.2⟩
  have hs : IsAscii s := by
    apply isAscii_of_map_toLower
    rw [← String.toList_ofList (l := s.map Char.toLower), h]
    exact hascii
  exact ⟨hs, (hword hs).2 h⟩

/-- A text of the language after an optional sign. -/
def Signed (L : List Char → Prop) (s : List Char) : Prop :=
  ∃ sign w, s = sign ++ w ∧ IsSign sign ∧ L w

/-- The texts of the language are not empty, and none starts with a sign. -/
def Unsigned (L : List Char → Prop) : Prop :=
  ∀ w, L w → ∃ c rest, w = c :: rest ∧ c ≠ '+' ∧ c ≠ '-'

theorem signed_plus_iff (hL : Unsigned L) : Signed L ('+' :: s) ↔ L s := by
  constructor
  · rintro ⟨sign, w, heq, rfl | rfl | rfl, hw⟩
    · cases heq
      obtain ⟨c, rest, heq, hne, -⟩ := hL _ hw
      cases heq
      exact absurd rfl hne
    · cases heq
      exact hw
    · cases heq
  · intro h
    exact ⟨['+'], s, rfl, .inr (.inl rfl), h⟩

theorem signed_minus_iff (hL : Unsigned L) : Signed L ('-' :: s) ↔ L s := by
  constructor
  · rintro ⟨sign, w, heq, rfl | rfl | rfl, hw⟩
    · cases heq
      obtain ⟨c, rest, heq, -, hne⟩ := hL _ hw
      cases heq
      exact absurd rfl hne
    · cases heq
    · cases heq
      exact hw
  · intro h
    exact ⟨['-'], s, rfl, .inr (.inr rfl), h⟩

theorem signed_iff_of_ne (hminus : ∀ rest, s ≠ '-' :: rest) (hplus : ∀ rest, s ≠ '+' :: rest) :
    Signed L s ↔ L s := by
  constructor
  · rintro ⟨sign, w, rfl, rfl | rfl | rfl, hw⟩
    · exact hw
    · exact absurd rfl (hplus w)
    · exact absurd rfl (hminus w)
  · intro h
    exact ⟨[], s, rfl, .inl rfl, h⟩

theorem unsigned_digits : Unsigned IsDigits := by
  rintro w ⟨hne, hw⟩
  obtain ⟨c, rest, rfl⟩ := List.exists_cons_of_ne_nil hne
  refine ⟨c, rest, rfl, ?_, ?_⟩
  · rintro rfl
    exact absurd (hw '+' List.mem_cons_self) (by decide)
  · rintro rfl
    exact absurd (hw '-' List.mem_cons_self) (by decide)

theorem unsigned_mantissa : Unsigned IsMantissa := by
  rintro w (⟨whole, fraction, rfl, hwhole, -⟩ | ⟨fraction, rfl, -⟩ | h)
  · obtain ⟨c, rest, rfl, hc⟩ := unsigned_digits whole hwhole
    exact ⟨c, _, rfl, hc⟩
  · exact ⟨'.', fraction, rfl, by decide, by decide⟩
  · exact unsigned_digits w h

theorem unsigned_sameFolded {c : Char} {w : List Char}
    (hplus : Folding.fold '+'.toNat ≠ Folding.fold c.toNat)
    (hminus : Folding.fold '-'.toNat ≠ Folding.fold c.toNat) : Unsigned (SameFolded · (c :: w)) := by
  intro v hv
  cases v with
  | nil => cases hv
  | cons d v =>
    have hd : Folding.fold d.toNat = Folding.fold c.toNat := (List.cons.inj hv).1
    refine ⟨d, v, rfl, ?_, ?_⟩
    · rintro rfl
      exact hplus hd
    · rintro rfl
      exact hminus hd

/-- In ASCII, digits with a point among or next to them, or digits. -/
theorem isMantissa_iff_of_isAscii : IsAscii s ∧ IsMantissa s ↔
    (∃ whole fraction, s = whole ++ '.' :: fraction ∧ (∀ c ∈ whole, c.isDigit = true) ∧
      (∀ c ∈ fraction, c.isDigit = true) ∧ (whole ≠ [] ∨ fraction ≠ [])) ∨
    s ≠ [] ∧ ∀ c ∈ s, c.isDigit = true := by
  constructor
  · rintro ⟨hs, ⟨whole, fraction, rfl, hwhole, hfraction⟩ | ⟨fraction, rfl, hfraction⟩ | hdigits⟩
    · obtain ⟨hw, hf⟩ := isAscii_append_iff.1 hs
      obtain ⟨hne, hwhole⟩ := (isDigits_iff_of_isAscii hw).1 hwhole
      have hf' := (isAscii_cons_iff.1 hf).2
      exact .inl ⟨whole, fraction, rfl, hwhole,
        fun c hc => isDigit_of_isDecimal (hf' c hc) (hfraction c hc), .inl hne⟩
    · obtain ⟨hne, hfraction⟩ := (isDigits_iff_of_isAscii (isAscii_cons_iff.1 hs).2).1 hfraction
      exact .inl ⟨[], fraction, rfl, by simp, hfraction, .inr hne⟩
    · exact .inr ((isDigits_iff_of_isAscii hs).1 hdigits)
  · rintro (⟨whole, fraction, rfl, hwhole, hfraction, hne⟩ | hs)
    · have hw := isAscii_of_isDigit hwhole
      have hf := isAscii_of_isDigit hfraction
      refine ⟨isAscii_append_iff.2 ⟨hw, isAscii_cons_iff.2 ⟨by decide, hf⟩⟩, ?_⟩
      by_cases hempty : whole = []
      · subst hempty
        have hdigits : IsDigits fraction :=
          (isDigits_iff_of_isAscii hf).2 ⟨by simpa using hne, hfraction⟩
        exact .inr (.inl ⟨fraction, rfl, hdigits⟩)
      · exact .inl ⟨whole, fraction, rfl, (isDigits_iff_of_isAscii hw).2 ⟨hempty, hwhole⟩,
          fun c hc => isDecimal_of_isDigit (hfraction c hc)⟩
    · have hascii : IsAscii s := isAscii_of_isDigit hs.2
      exact ⟨hascii, .inr (.inr ((isDigits_iff_of_isAscii hascii).2 hs))⟩

end Lexeme

theorem isSome_mapM_iff {α β : Type} {f : α → Option β} {l : List α} :
    (l.mapM f).isSome = true ↔ ∀ a ∈ l, (f a).isSome = true := by
  induction l with
  | nil => simp
  | cons a l ih =>
    rw [List.mapM_cons, List.forall_mem_cons, ← ih]
    cases f a with
    | none => simp
    | some b => cases l.mapM f <;> simp

namespace Binary

theorem isSome_digits_iff (f : List Nat → Int) :
    (if s.isEmpty then none else (s.mapM digitValue?).map f).isSome = true ↔
      IsAscii s ∧ IsDigits s := by
  have hascii : (IsAscii s ∧ IsDigits s) ↔ s ≠ [] ∧ ∀ c ∈ s, c.isDigit = true := by
    constructor
    · rintro ⟨h, hs⟩
      exact (isDigits_iff_of_isAscii h).1 hs
    · intro hs
      have h : IsAscii s := isAscii_of_isDigit hs.2
      exact ⟨h, (isDigits_iff_of_isAscii h).2 hs⟩
  rw [hascii]
  simp only [← isSome_digitValue?_iff]
  split
  · rename_i h
    simp [List.isEmpty_iff.1 h]
  · rename_i h
    rw [Option.isSome_map, isSome_mapM_iff]
    exact ⟨fun hs => ⟨by simpa using h, hs⟩, fun hs => hs.2⟩

theorem isSome_readExponent?_iff :
    (readExponent? s).isSome = true ↔ IsAscii s ∧ IsSigned s := by
  unfold readExponent?
  split
  rename_i negative digits heq
  rw [isSome_digits_iff]
  split at heq
  · cases heq
    rw [isAscii_cons_of_lt (by decide)]
    exact and_congr_right fun _ => (signed_minus_iff unsigned_digits).symm
  · cases heq
    rw [isAscii_cons_of_lt (by decide)]
    exact and_congr_right fun _ => (signed_plus_iff unsigned_digits).symm
  · rename_i hminus hplus
    cases heq
    exact and_congr_right fun _ => (signed_iff_of_ne hminus hplus).symm

/-- The exponent that ends a numeral, zero if nothing is left. -/
def power? : List Char → Option Int
  | [] => some 0
  | c :: rest => if c = 'e' ∨ c = 'E' then readExponent? rest else none

theorem isSome_power?_iff : (power? tail).isSome = true ↔ IsAscii tail ∧ IsExponent tail := by
  cases tail with
  | nil =>
    exact ⟨fun _ => ⟨by simp [IsAscii], .inl rfl⟩, fun _ => rfl⟩
  | cons c rest =>
    rw [power?, isAscii_cons_iff]
    split
    · rename_i hc
      rw [isSome_readExponent?_iff]
      constructor
      · rintro ⟨hascii, hrest⟩
        refine ⟨⟨?_, hascii⟩, .inr ⟨c, rest, rfl, hc, hrest⟩⟩
        rcases hc with rfl | rfl <;> decide
      · rintro ⟨⟨-, hascii⟩, h | ⟨mark, power, h, -, hpower⟩⟩
        · cases h
        · cases h
          exact ⟨hascii, hpower⟩
    · rename_i hc
      refine ⟨fun h => absurd h Bool.false_ne_true, ?_⟩
      rintro ⟨-, h | ⟨mark, power, h, hmark, -⟩⟩
      · cases h
      · cases h
        exact absurd hmark hc

theorem isSome_readDecimal?_point (hwhole : ∀ c ∈ whole, c.isDigit = true)
    (hfraction : ∀ c ∈ fraction, c.isDigit = true) (htail : ∀ c ∈ tail.head?, c.isDigit = false) :
    (readDecimal? (whole ++ '.' :: (fraction ++ tail))).isSome = true ↔
      (whole ≠ [] ∨ fraction ≠ []) ∧ (power? tail).isSome = true := by
  have hpoint : ∀ c ∈ ('.' :: (fraction ++ tail)).head?, c.isDigit = false := by
    rintro c ⟨⟩
    decide
  unfold readDecimal?
  rw [takeWhile_append_stop hwhole hpoint, dropWhile_append_stop hwhole hpoint]
  show (if (whole.isEmpty && ((fraction ++ tail).takeWhile Char.isDigit).isEmpty) = true then none
    else Option.map _ (power? ((fraction ++ tail).dropWhile Char.isDigit))).isSome = true ↔ _
  rw [takeWhile_append_stop hfraction htail, dropWhile_append_stop hfraction htail]
  split
  · rename_i h
    simp only [Bool.and_eq_true, List.isEmpty_iff] at h
    simp [h]
  · rename_i h
    rw [Bool.and_eq_true, List.isEmpty_iff, List.isEmpty_iff, not_and_or] at h
    rw [Option.isSome_map, and_iff_right h]

theorem isSome_readDecimal?_plain (hwhole : ∀ c ∈ whole, c.isDigit = true)
    (htail : ∀ c ∈ tail.head?, c.isDigit = false ∧ c ≠ '.') :
    (readDecimal? (whole ++ tail)).isSome = true ↔
      whole ≠ [] ∧ (power? tail).isSome = true := by
  have hstop : ∀ c ∈ tail.head?, c.isDigit = false := fun c hc => (htail c hc).1
  unfold readDecimal?
  rw [takeWhile_append_stop hwhole hstop, dropWhile_append_stop hwhole hstop]
  dsimp only
  split
  · exact absurd rfl (htail '.' rfl).2
  show (if (whole.isEmpty && true) = true then none
    else Option.map _ (power? tail)).isSome = true ↔ _
  split
  · rename_i h
    simp only [Bool.and_true, List.isEmpty_iff] at h
    simp [h]
  · rename_i h
    rw [Bool.and_true, List.isEmpty_iff] at h
    rw [Option.isSome_map, and_iff_right h]

theorem not_digit_of_exponent (h : IsExponent tail) :
    ∀ c ∈ tail.head?, c.isDigit = false ∧ c ≠ '.' := by
  rcases h with rfl | ⟨mark, power, rfl, hmark, -⟩
  · rintro c ⟨⟩
  · rintro c ⟨⟩
    rcases hmark with rfl | rfl <;> decide

theorem isSome_readDecimal?_iff : (readDecimal? s).isSome = true ↔
    IsAscii s ∧ ∃ mantissa exponent, s = mantissa ++ exponent ∧
      IsMantissa mantissa ∧ IsExponent exponent := by
  constructor
  · intro h
    obtain ⟨whole, rest, rfl, hwhole, hrest⟩ := exists_span Char.isDigit s
    by_cases hpoint : ∃ rest', rest = '.' :: rest'
    · obtain ⟨rest', rfl⟩ := hpoint
      obtain ⟨fraction, tail, rfl, hfraction, htail⟩ := exists_span Char.isDigit rest'
      obtain ⟨hne, hpower⟩ := (isSome_readDecimal?_point hwhole hfraction htail).1 h
      obtain ⟨hascii, hexponent⟩ := isSome_power?_iff.1 hpower
      have hmantissa : IsAscii (whole ++ '.' :: fraction) ∧ IsMantissa (whole ++ '.' :: fraction) :=
        isMantissa_iff_of_isAscii.2 (.inl ⟨whole, fraction, rfl, hwhole, hfraction, hne⟩)
      have heq : whole ++ '.' :: (fraction ++ tail) = (whole ++ '.' :: fraction) ++ tail := by simp
      rw [heq]
      exact ⟨isAscii_append_iff.2 ⟨hmantissa.1, hascii⟩, _, tail, rfl, hmantissa.2, hexponent⟩
    · have hplain : ∀ c ∈ rest.head?, c.isDigit = false ∧ c ≠ '.' := by
        intro c hc
        refine ⟨hrest c hc, ?_⟩
        rintro rfl
        exact hpoint ⟨_, List.eq_cons_of_mem_head? hc⟩
      obtain ⟨hne, hpower⟩ := (isSome_readDecimal?_plain hwhole hplain).1 h
      obtain ⟨hascii, hexponent⟩ := isSome_power?_iff.1 hpower
      have hmantissa : IsAscii whole ∧ IsMantissa whole :=
        isMantissa_iff_of_isAscii.2 (.inr ⟨hne, hwhole⟩)
      exact ⟨isAscii_append_iff.2 ⟨hmantissa.1, hascii⟩, whole, rest, rfl, hmantissa.2, hexponent⟩
  · rintro ⟨hascii, mantissa, exponent, rfl, hmantissa, hexponent⟩
    obtain ⟨hm, he⟩ := isAscii_append_iff.1 hascii
    have hpower : (power? exponent).isSome = true := isSome_power?_iff.2 ⟨he, hexponent⟩
    have hstop := not_digit_of_exponent hexponent
    rcases isMantissa_iff_of_isAscii.1 ⟨hm, hmantissa⟩ with
      ⟨whole, fraction, rfl, hwhole, hfraction, hne⟩ | ⟨hne, hdigits⟩
    · rw [List.append_assoc, List.cons_append]
      exact (isSome_readDecimal?_point hwhole hfraction fun c hc => (hstop c hc).1).2 ⟨hne, hpower⟩
    · exact (isSome_readDecimal?_plain hdigits hstop).2 ⟨hne, hpower⟩

/-- The texts of unsigned numbers, infinities and NaNs. -/
def IsMagnitude (s : List Char) : Prop :=
  (∃ mantissa exponent, s = mantissa ++ exponent ∧ IsMantissa mantissa ∧ IsExponent exponent) ∨
    SameFolded s "nan".toList ∨ SameFolded s "inf".toList ∨ SameFolded s "infinity".toList

theorem isSome_readMagnitude?_iff :
    (readMagnitude? t negative s).isSome = true ↔ IsAscii s ∧ IsMagnitude s := by
  have hinf := toLower_eq_iff_of_small (s := s) (w := "inf") (by decide) (by decide)
  have hinfinity := toLower_eq_iff_of_small (s := s) (w := "infinity") (by decide) (by decide)
  have hnan := toLower_eq_iff_of_small (s := s) (w := "nan") (by decide) (by decide)
  unfold readMagnitude? IsMagnitude
  split
  · rename_i heq
    obtain ⟨hs, hsame⟩ := hinf.1 heq
    exact iff_of_true rfl ⟨hs, .inr (.inr (.inl hsame))⟩
  · rename_i heq
    obtain ⟨hs, hsame⟩ := hinfinity.1 heq
    exact iff_of_true rfl ⟨hs, .inr (.inr (.inr hsame))⟩
  · rename_i heq
    obtain ⟨hs, hsame⟩ := hnan.1 heq
    exact iff_of_true rfl ⟨hs, .inr (.inl hsame)⟩
  · rename_i hne hne' hne''
    rw [Option.isSome_map, isSome_readDecimal?_iff]
    refine and_congr_right fun hs => ⟨.inl, fun h => h.resolve_right ?_⟩
    rintro (hsame | hsame | hsame)
    · exact hne'' (hnan.2 ⟨hs, hsame⟩)
    · exact hne (hinf.2 ⟨hs, hsame⟩)
    · exact hne' (hinfinity.2 ⟨hs, hsame⟩)

theorem unsigned_magnitude : Unsigned IsMagnitude := by
  rintro w (⟨mantissa, exponent, rfl, hmantissa, -⟩ | h | h | h)
  · obtain ⟨c, rest, rfl, hc⟩ := unsigned_mantissa mantissa hmantissa
    exact ⟨c, rest ++ exponent, rfl, hc⟩
  · exact unsigned_sameFolded (by decide +kernel) (by decide +kernel) w h
  · exact unsigned_sameFolded (by decide +kernel) (by decide +kernel) w h
  · exact unsigned_sameFolded (by decide +kernel) (by decide +kernel) w h

/-- What is read as a float is in ASCII. -/
theorem read_eq_ok_iff :
    (∃ x, Binary.read t text = .ok x) ↔ IsAscii text.toList ∧ Signed IsMagnitude text.toList := by
  unfold Binary.read
  cases text.toList with
  | nil =>
    constructor
    · rintro ⟨x, h⟩
      cases h
    · rintro ⟨-, h⟩
      have hmagnitude : IsMagnitude [] := (signed_iff_of_ne (by simp) (by simp)).1 h
      obtain ⟨c, rest, heq, -⟩ := unsigned_magnitude [] hmagnitude
      cases heq
  | cons c rest =>
    dsimp only
    generalize hm : (if c = '-' then readMagnitude? t true rest
      else if c = '+' then readMagnitude? t false rest
      else readMagnitude? t false (c :: rest)) = m
    have hread : m.isSome = true ↔ IsAscii (c :: rest) ∧ Signed IsMagnitude (c :: rest) := by
      rw [← hm]
      split
      · rename_i hc
        subst hc
        rw [isSome_readMagnitude?_iff, isAscii_cons_of_lt (by decide),
          signed_minus_iff unsigned_magnitude]
      · split
        · rename_i hc
          subst hc
          rw [isSome_readMagnitude?_iff, isAscii_cons_of_lt (by decide),
            signed_plus_iff unsigned_magnitude]
        · rename_i hminus hplus
          rw [isSome_readMagnitude?_iff, signed_iff_of_ne]
          · rintro rest' heq
            exact hminus (List.cons.inj heq).1
          · rintro rest' heq
            exact hplus (List.cons.inj heq).1
    rw [← hread]
    cases m with
    | none =>
      refine iff_of_false ?_ Bool.false_ne_true
      rintro ⟨x, h⟩
      cases h
    | some x => exact iff_of_true ⟨x, rfl⟩ rfl

end Binary

/-- A text of the fragment for floats is read as one just if it is in ASCII. -/
theorem Cell.float_eq_ok_iff (h : IsFloat text.toList) :
    (∃ x, Cell.float t text = .ok x) ↔ IsAscii text.toList := by
  have hsigned : Signed Binary.IsMagnitude text.toList := by
    rcases h with ⟨sign, mantissa, exponent, heq, hsign, hmantissa, hexponent⟩ | h
    · exact ⟨sign, _, heq, hsign, .inl ⟨mantissa, exponent, rfl, hmantissa, hexponent⟩⟩
    · exact ⟨[], _, rfl, .inl rfl, .inr h⟩
  simp only [Cell.float, Cell.scalar, mapError_eq_ok_iff]
  rw [Binary.read_eq_ok_iff, and_iff_left hsigned]

/-- A text of the fragment for truth values is read as one just if it is in ASCII. -/
theorem Cell.bool_eq_ok_iff (h : IsBool text.toList) :
    (∃ b, Cell.bool (asciiLower text) = .ok b) ↔ IsAscii text.toList := by
  have hlower : asciiLower text = String.ofList (text.toList.map Char.toLower) := by
    rw [asciiLower, ← String.toList_inj, String.toList_map, String.toList_ofList]
  have htrue := toLower_eq_iff_of_small (s := text.toList) (w := "true") (by decide) (by decide)
  have hfalse := toLower_eq_iff_of_small (s := text.toList) (w := "false") (by decide) (by decide)
  rw [hlower]
  unfold Cell.bool
  split
  · rename_i heq
    exact iff_of_true ⟨true, rfl⟩ (htrue.1 heq).1
  · rename_i hne
    split
    · rename_i heq
      exact iff_of_true ⟨false, rfl⟩ (hfalse.1 heq).1
    · rename_i hne'
      refine iff_of_false (fun ⟨b, hb⟩ => nomatch hb) fun hascii => ?_
      rcases h with h | h
      · exact hne (htrue.2 ⟨hascii, h⟩)
      · exact hne' (hfalse.2 ⟨hascii, h⟩)

end StepPhrase
