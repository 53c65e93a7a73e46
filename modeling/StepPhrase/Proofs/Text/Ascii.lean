import Mathlib.Data.List.TakeWhile
import StepPhrase.Proofs.Unicode.Folding
import StepPhrase.Text.Ascii
import StepPhrase.Unicode.Decimal

/-! ASCII texts, and texts cut where the characters of a class end. -/
namespace StepPhrase.Text

open Unicode

variable {c : Char} {s rest : List Char} {p : Char → Bool}

theorem takeWhile_append_stop (hs : ∀ c ∈ s, p c = true) (hrest : ∀ c ∈ rest.head?, p c = false) :
    (s ++ rest).takeWhile p = s := by
  rw [List.takeWhile_append_of_pos hs]
  cases rest with
  | nil => simp
  | cons c rest => simp [hrest c rfl]

theorem dropWhile_append_stop (hs : ∀ c ∈ s, p c = true) (hrest : ∀ c ∈ rest.head?, p c = false) :
    (s ++ rest).dropWhile p = rest := by
  rw [List.dropWhile_append_of_pos hs]
  cases rest with
  | nil => rfl
  | cons c rest => simp [hrest c rfl]

/-- A text is cut where the characters of a class end. -/
theorem exists_span (p : Char → Bool) (s : List Char) :
    ∃ x y, s = x ++ y ∧ (∀ c ∈ x, p c = true) ∧ ∀ c ∈ y.head?, p c = false := by
  refine ⟨s.takeWhile p, s.dropWhile p, List.takeWhile_append_dropWhile.symm,
    fun c hc => List.mem_takeWhile_imp hc,
    fun c hc => ?_⟩
  have := List.head?_dropWhile_not p s
  cases hd : (s.dropWhile p).head? with
  | none => simp [hd] at hc
  | some e =>
    rw [hd] at this hc
    cases hc
    simpa using this

def IsAscii (s : List Char) : Prop := ∀ c ∈ s, c.toNat < 128

instance : DecidablePred IsAscii := List.decidableBAll fun c : Char => c.toNat < 128

theorem isAscii_cons_iff : IsAscii (c :: s) ↔ c.toNat < 128 ∧ IsAscii s := List.forall_mem_cons

theorem isAscii_cons_of_lt (hc : c.toNat < 128) : IsAscii (c :: s) ↔ IsAscii s :=
  isAscii_cons_iff.trans (and_iff_right hc)

theorem isAscii_append_iff : IsAscii (s ++ rest) ↔ IsAscii s ∧ IsAscii rest :=
  List.forall_mem_append

theorem toLower_eq_of_le (h : 128 ≤ c.toNat) : c.toLower = c := by
  unfold Char.toLower
  rw [dif_neg]
  rintro ⟨-, hle⟩
  have hle : c.toNat ≤ 90 := hle
  omega

theorem isAscii_of_map_toLower (h : IsAscii (s.map Char.toLower)) : IsAscii s := by
  intro c hc
  by_contra hlt
  have hle : 128 ≤ c.toNat := Nat.le_of_not_lt hlt
  have hlower := h c.toLower (List.mem_map.2 ⟨c, hc, rfl⟩)
  rw [toLower_eq_of_le hle] at hlower
  exact hlt hlower

theorem lt_of_isDigit (h : c.isDigit = true) : c.toNat < 128 := by
  simp only [Char.isDigit, Bool.and_eq_true, decide_eq_true_eq] at h
  have hle : c.toNat ≤ 57 := h.2
  omega

theorem isAscii_of_isDigit (h : ∀ c ∈ s, c.isDigit = true) : IsAscii s :=
  fun c hc => lt_of_isDigit (h c hc)

theorem isSome_digitValue?_iff : (digitValue? c).isSome = true ↔ c.isDigit = true := by
  have hiff : ('0' ≤ c ∧ c ≤ '9') ↔ c.isDigit = true := by
    simp only [Char.isDigit, Bool.and_eq_true, decide_eq_true_eq]
    rfl
  unfold digitValue?
  split
  · rename_i h
    exact ⟨fun _ => hiff.1 h, fun _ => rfl⟩
  · rename_i h
    exact ⟨fun hsome => absurd hsome Bool.false_ne_true, fun hd => absurd (hiff.2 hd) h⟩

/-- A property of all ASCII characters can be found by going through them. -/
theorem forall_ascii_of_all {P : Char → Prop} [DecidablePred P]
    (h : (List.range 128).all (fun n => decide (P (Char.ofNat n))) = true) (hc : c.toNat < 128) :
    P c := by
  have hall := forall_mem_of_all h c.toNat (List.mem_range.2 hc)
  rwa [Char.ofNat_toNat] at hall

theorem fold_eq_toLower (hc : c.toNat < 128) : Folding.fold c.toNat = c.toLower.toNat :=
  forall_ascii_of_all (P := fun c => Folding.fold c.toNat = c.toLower.toNat) (by decide +kernel) hc

theorem isDigit_of_isDecimal (hc : c.toNat < 128) (h : isDecimal c = true) : c.isDigit = true :=
  forall_ascii_of_all (P := fun c => isDecimal c = true → c.isDigit = true) (by decide +kernel) hc h

theorem isDecimal_of_isDigit (h : c.isDigit = true) : isDecimal c = true :=
  forall_ascii_of_all (P := fun c => c.isDigit = true → isDecimal c = true) (by decide +kernel)
    (lt_of_isDigit h) h

end StepPhrase.Text
