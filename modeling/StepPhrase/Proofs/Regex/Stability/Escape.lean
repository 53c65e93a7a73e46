import StepPhrase.Regex.Escape

/-! What flags and escape sequences read from a text stays when more text follows. -/
namespace StepPhrase.Regex

variable {f g : Flags} {v b any : Bool} {c mark : Char} {s t rest seen : List Char}

theorem takeWhile_append_of_drop {p : Char → Bool}
    (h : s.drop (s.takeWhile p).length = c :: rest) :
    (s ++ t).takeWhile p = s.takeWhile p ∧
      (s ++ t).drop (s.takeWhile p).length = c :: (rest ++ t) := by
  have hlength := congrArg List.length h
  simp only [List.length_drop, List.length_cons] at hlength
  constructor
  · rw [List.takeWhile_append, if_neg (by omega)]
  · rw [List.drop_append_of_le_length (by omega), h, List.cons_append]

@[simp] theorem skip_nil : skip v [] = [] := by
  cases v <;> rfl

theorem skipVerbose_append (h : skipVerbose b s ≠ []) :
    skipVerbose b (s ++ t) = skipVerbose b s ++ t := by
  induction s generalizing b with
  | nil => simp [skipVerbose] at h
  | cons c s ih =>
    simp only [skipVerbose, List.cons_append] at h ⊢
    split
    · rename_i hb
      rw [if_pos hb] at h
      exact ih h
    · rename_i hb
      rw [if_neg hb] at h
      split
      · rename_i hc
        rw [if_pos hc] at h
        exact ih h
      · rename_i hc
        rw [if_neg hc] at h
        split
        · rename_i hm
          rw [if_pos hm] at h
          exact ih h
        · rfl

/-- A text that is skipped to its end leaves only whether a comment is open. -/
theorem skipVerbose_append_of_nil (h : skipVerbose b s = []) :
    ∃ d, ∀ t, skipVerbose b (s ++ t) = skipVerbose d t := by
  induction s generalizing b with
  | nil => exact ⟨b, fun t => rfl⟩
  | cons c s ih =>
    simp only [skipVerbose, List.cons_append] at h ⊢
    split
    · rename_i hb
      rw [if_pos hb] at h
      exact ih h
    · rename_i hb
      rw [if_neg hb] at h
      split
      · rename_i hc
        rw [if_pos hc] at h
        exact ih h
      · rename_i hc
        rw [if_neg hc] at h
        split
        · rename_i hm
          rw [if_pos hm] at h
          exact ih h
        · rename_i hm
          rw [if_neg hm] at h
          cases h

theorem skip_append (h : skip v s ≠ []) : skip v (s ++ t) = skip v s ++ t := by
  unfold skip at h ⊢
  split
  · rename_i hv
    rw [if_pos hv] at h
    exact skipVerbose_append h
  · rfl

theorem skip_append_cons (h : skip v s = c :: rest) : skip v (s ++ t) = c :: (rest ++ t) := by
  rw [skip_append (by simp [h]), h, List.cons_append]

theorem skipVerbose_idem : skipVerbose false (skipVerbose b s) = skipVerbose b s := by
  induction s generalizing b with
  | nil => rfl
  | cons c s ih =>
    simp only [skipVerbose]
    split
    · exact ih
    · split
      · exact ih
      · split
        · exact ih
        · rename_i hc hm
          simp [skipVerbose, hc, hm]

theorem skip_idem : skip v (skip v s) = skip v s := by
  unfold skip
  split
  · exact skipVerbose_idem
  · rfl

theorem Flags.read_append (h : f.read seen s = some (g, any, mark, rest)) :
    f.read seen (s ++ t) = some (g, any, mark, rest ++ t) := by
  induction s generalizing f seen with
  | nil => simp [Flags.read] at h
  | cons c s ih =>
    simp only [Flags.read, List.cons_append] at h ⊢
    split at h
    · rename_i hc
      rw [if_pos hc]
      split at h
      · cases h
      · rename_i hs
        cases h
        rw [if_neg hs]
    · rename_i hc
      rw [if_neg hc]
      split at h
      · cases h
      · rename_i hs
        rw [if_neg hs]
        split at h
        · rename_i hm
          rw [if_pos hm]
          exact ih h
        · rename_i hm
          rw [if_neg hm]
          split at h
          · exact ih h
          · cases h

namespace Escape

variable {name digits : List Char} {ds : List Nat} {n : Nat} {a : Atom}

theorem braced_append (h : braced v b s = some (name, rest)) :
    braced v b (s ++ t) = some (name, rest ++ t) := by
  induction s generalizing b name with
  | nil => simp [braced] at h
  | cons c s ih =>
    simp only [braced, List.cons_append] at h ⊢
    split at h
    · rename_i hb
      rw [if_pos hb]
      exact ih h
    · rename_i hb
      rw [if_neg hb]
      split at h
      · rename_i hc
        rw [if_pos hc]
        exact ih h
      · rename_i hc
        rw [if_neg hc]
        split at h
        · rename_i hm
          rw [if_pos hm]
          exact ih h
        · rename_i hm
          rw [if_neg hm]
          split at h
          · rename_i he
            cases h
            rw [if_pos he]
          · rename_i he
            rw [if_neg he]
            obtain ⟨⟨others, r⟩, hr, heq⟩ := Option.map_eq_some_iff.1 h
            cases heq
            rw [ih hr]
            rfl

theorem hexDigits_append (h : hexDigits v n s = some (ds, rest)) :
    hexDigits v n (s ++ t) = some (ds, rest ++ t) := by
  induction n generalizing s ds with
  | zero =>
    cases h
    rfl
  | succ n ih =>
    unfold hexDigits at h
    split at h
    · cases h
    · rename_i c s' hs
      obtain ⟨d, hd, h⟩ := Option.bind_eq_some_iff.1 h
      obtain ⟨⟨others, r⟩, hr, h⟩ := Option.bind_eq_some_iff.1 h
      cases h
      simp only [hexDigits, skip_append_cons hs, hd, ih hr, Option.bind_eq_bind, Option.bind_some]
      rfl

theorem hex_append (h : hex v (n + 1) s = some (a, rest)) :
    hex v (n + 1) (s ++ t) = some (a, rest ++ t) := by
  unfold hex at h
  split at h
  · rename_i s' hs
    obtain ⟨⟨name, r⟩, hr, h⟩ := Option.bind_eq_some_iff.1 h
    simp only [hex, skip_append_cons hs, braced_append hr, Option.bind_eq_bind, Option.bind_some]
    dsimp only at h
    split at h
    · simp at h
    · rename_i hname
      rw [if_neg hname]
      obtain ⟨digits, hdigits, h⟩ := Option.bind_eq_some_iff.1 h
      obtain ⟨c, hc, h⟩ := Option.bind_eq_some_iff.1 h
      cases h
      simp only [hdigits, hc, Option.bind_some]
      rfl
  · rename_i hbrace
    obtain ⟨⟨digits, r⟩, hr, h⟩ := Option.bind_eq_some_iff.1 h
    obtain ⟨c, hc, h⟩ := Option.bind_eq_some_iff.1 h
    cases h
    have hnil : skip v s ≠ [] := by
      intro hnil
      simp [hexDigits, hnil] at hr
    obtain ⟨d, s', hs⟩ := List.exists_cons_of_ne_nil hnil
    rw [hs] at hbrace hr
    unfold hex
    rw [skip_append_cons hs]
    split
    · rename_i heq
      cases heq
      exact absurd rfl (hbrace _)
    · rw [← List.cons_append]
      simp only [hexDigits_append hr, hc, Option.bind_eq_bind, Option.bind_some]
      rfl

theorem propertyClass_append (h : propertyClass f b s = some (a, rest)) :
    propertyClass f b (s ++ t) = some (a, rest ++ t) := by
  unfold propertyClass at h ⊢
  cases hu : f.unicode with
  | false => simp [hu] at h
  | true =>
    simp only [hu, Bool.not_true, Bool.false_eq_true, if_false] at h ⊢
    split at h
    · simp at h
    · rename_i s' hs
      obtain ⟨⟨name, r⟩, hr, h⟩ := Option.bind_eq_some_iff.1 h
      obtain ⟨property, hproperty, h⟩ := Option.bind_eq_some_iff.1 h
      obtain ⟨set, hset, h⟩ := Option.bind_eq_some_iff.1 h
      cases h
      simp only [skip_append_cons hs, braced_append hr, hproperty, hset, Option.bind_eq_bind,
        Option.bind_some]
      rfl
    · rename_i c s' hbrace hs
      obtain ⟨property, hproperty, h⟩ := Option.bind_eq_some_iff.1 h
      obtain ⟨set, hset, h⟩ := Option.bind_eq_some_iff.1 h
      cases h
      rw [skip_append_cons hs]
      split
      · rename_i hnil
        cases hnil
      · rename_i hcons
        cases hcons
        exact absurd rfl hbrace
      · rename_i hcons
        cases hcons
        simp only [hproperty, hset, Option.bind_eq_bind, Option.bind_some]
        rfl

theorem letterClass_append {unicode ascii : Unicode.CharSet}
    (h : letterClass f b unicode ascii s = some (a, rest)) :
    letterClass f b unicode ascii (s ++ t) = some (a, rest ++ t) := by
  obtain ⟨set, hset, h⟩ := Option.map_eq_some_iff.1 h
  cases h
  simp only [letterClass, hset, Option.map_some]

/-- At the end of a text, a brace that follows may tell which boundary is meant. -/
theorem boundary_append (h : boundary f s = some (a, rest)) (ht : rest = [] → t.head? ≠ some '{') :
    boundary f (s ++ t) = some (a, rest ++ t) := by
  unfold boundary at h
  split at h
  · rename_i s'
    split at h
    · cases h
    · rename_i c r hs
      simp only [boundary, List.cons_append, skip_append_cons hs]
      split at h
      · rename_i hc
        rw [if_pos hc, ← List.cons_append]
        obtain ⟨⟨name, r'⟩, hr, h⟩ := Option.bind_eq_some_iff.1 h
        simp only [braced_append hr, Option.bind_eq_bind, Option.bind_some]
        dsimp only at h
        split at h
        case h_5 => cases h
        all_goals
          cases h
          rfl
      · rename_i hc
        cases h
        rw [if_neg hc]
        rfl
  · rename_i hbrace
    cases h
    unfold boundary
    split
    · rename_i s' hs
      cases s with
      | nil => exact absurd (congrArg List.head? hs) (by simpa using ht rfl)
      | cons c s =>
        cases hs
        exact absurd rfl (hbrace _)
    · rfl

/-- Whatever may follow a text that does not end in `\b`, the escape sequence read is the same. -/
theorem read_append (h : Escape.read f s = some (a, rest)) (ht : rest = [] → t.head? ≠ some '{') :
    Escape.read f (s ++ t) = some (a, rest ++ t) := by
  cases s with
  | nil => cases h
  | cons c s =>
    rw [List.cons_append]
    unfold Escape.read at h ⊢
    dsimp only at h ⊢
    split at h
    case h_1 | h_2 | h_3 => exact hex_append h
    case h_4 | h_5 => exact propertyClass_append h
    case h_6 | h_7 | h_8 | h_9 | h_10 | h_11 => exact letterClass_append h
    case h_20 => exact boundary_append h ht
    case h_24 =>
      split at h
      · rename_i hplain
        cases h
        simp only [if_pos hplain]
      · cases h
    all_goals
      cases h
      rfl

end Escape

end StepPhrase.Regex
