import StepPhrase.Proofs.Regex.Stability.Escape
import StepPhrase.Regex.Reader

/-! What the bounds of a repetition read from a text stays when more text follows. -/
namespace StepPhrase.Regex.Reading

open StepPhrase.Unicode StepPhrase.Text

variable {v b : Bool} {s s' t rest : List Char} {ds : List Nat} {count : Option Nat}
  {bounds : Nat × Option Nat}

theorem dropWhile_append {p : Char → Bool} (h : s.dropWhile p ≠ []) :
    (s ++ t).dropWhile p = s.dropWhile p ++ t := by
  rw [List.dropWhile_append, if_neg (by simpa using h)]

theorem readDigits_append (h : readDigits v b s = (ds, rest)) (hrest : rest ≠ []) :
    readDigits v b (s ++ t) = (ds, rest ++ t) := by
  induction s generalizing b ds with
  | nil =>
    cases h
    exact absurd rfl hrest
  | cons c s ih =>
    simp only [readDigits, List.cons_append] at h ⊢
    split at h
    · rename_i hb
      rw [if_pos hb]
      exact ih h
    · rename_i hb
      rw [if_neg hb]
      split at h
      · rename_i hc
        rw [if_pos hc]
        exact ih h
      · rename_i hc
        rw [if_neg hc]
        split at h
        · rename_i hm
          rw [if_pos hm]
          exact ih h
        · rename_i hm
          rw [if_neg hm]
          split at h
          · cases h
            rfl
          · cases h
            rw [ih rfl]

theorem readCount_append (h : readCount v s = (count, rest)) (hrest : rest ≠ []) :
    readCount v (s ++ t) = (count, rest ++ t) := by
  unfold readCount at h ⊢
  cases hdigits : readDigits v false (s.dropWhile isBlank) with
  | mk ds r =>
    simp only [hdigits] at h
    cases h
    have hr : r ≠ [] := by
      rintro rfl
      exact hrest rfl
    have hs : s.dropWhile isBlank ≠ [] := by
      intro hnil
      rw [hnil] at hdigits
      cases hdigits
      exact hr rfl
    rw [dropWhile_append hs, readDigits_append hdigits hr]
    dsimp only
    rw [dropWhile_append hrest]

theorem readCount_nil : readCount v [] = (none, []) := rfl

/-- Reads the upper bound of a repetition with its closing brace. -/
def readMax (verbose : Bool) (min : Nat) (s : List Char) :
    Option ((Nat × Option Nat) × List Char) :=
  match skip verbose s with
  | '}' :: rest => some ((min, none), rest)
  | s =>
    match readCount verbose s with
    | (some max, '}' :: rest) => if min ≤ max then some ((min, some max), rest) else none
    | _ => none

theorem readMax_count {min : Nat} (h : (skip v s).head? ≠ some '}') : readMax v min s =
    match readCount v (skip v s) with
    | (some max, '}' :: rest) => if min ≤ max then some ((min, some max), rest) else none
    | _ => none := by
  unfold readMax
  split
  · rename_i hs
    rw [hs] at h
    exact absurd rfl h
  · rfl

theorem readMax_append {min : Nat} (h : readMax v min s = some (bounds, rest)) :
    readMax v min (s ++ t) = some (bounds, rest ++ t) := by
  cases hs : skip v s with
  | nil =>
    rw [readMax_count (by simp [hs]), hs] at h
    cases h
  | cons c s' =>
    by_cases hc : c = '}'
    · subst hc
      rw [readMax, hs] at h
      cases h
      rw [readMax, skip_append_cons hs]
      rfl
    · have hhead : (skip v s).head? ≠ some '}' := by simpa [hs] using hc
      have hhead' : (skip v (s ++ t)).head? ≠ some '}' := by simpa [skip_append_cons hs] using hc
      rw [readMax_count hhead] at h
      rw [readMax_count hhead', skip_append (by simp [hs])]
      split at h
      · rename_i max r hmax
        split at h
        · rename_i hle
          cases h
          rw [readCount_append hmax (List.cons_ne_nil _ _), List.cons_append]
          simp only [if_pos hle]
        · cases h
      · cases h

theorem readBounds_append (h : readBounds v s = some (bounds, rest)) :
    readBounds v (s ++ t) = some (bounds, rest ++ t) := by
  cases hmin : readCount v (skip v s) with
  | mk min s₁ =>
    have hs₁ : s₁ ≠ [] := by
      rintro rfl
      simp [readBounds, hmin] at h
    have hs : skip v s ≠ [] := by
      intro hnil
      rw [hnil, readCount_nil] at hmin
      cases hmin
      exact hs₁ rfl
    have hmin' : readCount v (skip v (s ++ t)) = (min, s₁ ++ t) := by
      rw [skip_append hs, readCount_append hmin hs₁]
    simp only [readBounds, hmin] at h
    simp only [readBounds, hmin']
    split at h
    · cases h
      rfl
    · exact readMax_append h
    · cases h

end StepPhrase.Regex.Reading
