import StepPhrase.Proofs.Regex.Exploration
import StepPhrase.Proofs.Regex.Matching

/-! Nodes without groups and assertions match the words of a language, wherever these stand. -/
namespace StepPhrase.Regex

open StepPhrase.Unicode

variable {t u : Thread} {s : CharSet} {x : Bool} {k : Nat} {pre w rest text : List Char}
  {a b n : Node} {L M : List Char → Prop}

/-- Between `pre` and `rest` the node matches `w`. -/
def Node.Consumes (n : Node) (pre w rest : List Char) : Prop :=
  ∃ u, n.Matches (.start pre (w ++ rest)) u ∧ u.rest = rest

/-- The node matches just the words of the language, and notes nothing. -/
def Node.HasLanguage (n : Node) (L : List Char → Prop) : Prop :=
  ∀ t u, n.Matches t u ↔ ∃ w rest, t.rest = w ++ rest ∧ L w ∧ u = t.after w rest []

namespace Node

theorem HasLanguage.congr (h : n.HasLanguage L) (hL : ∀ w, L w ↔ M w) : n.HasLanguage M := by
  intro t u
  rw [h]
  simp only [hL]

theorem HasLanguage.consumes_iff (h : n.HasLanguage L) : n.Consumes pre w rest ↔ L w := by
  constructor
  · rintro ⟨u, hu, hrest⟩
    obtain ⟨w', rest', hw, hL, rfl⟩ := (h _ _).1 hu
    have hrest' : rest' = rest := hrest
    subst hrest'
    rwa [List.append_cancel_right hw]
  · intro hw
    exact ⟨_, (h _ _).2 ⟨w, rest, rfl, hw, rfl⟩, rfl⟩

theorem language_literal : (literal text).HasLanguage (· = text) := by
  intro t u
  rw [Matches, Thread.readText_eq_some_iff]
  constructor
  · rintro ⟨rest, hrest, hu⟩
    exact ⟨text, rest, hrest, rfl, hu⟩
  · rintro ⟨w, rest, hrest, rfl, hu⟩
    exact ⟨rest, hrest, hu⟩

theorem language_set : (set x s).HasLanguage fun w => ∃ c, w = [c] ∧ s.contains c = true := by
  intro t u
  rw [Matches, Thread.readSet_eq_some_iff]
  constructor
  · rintro ⟨c, rest, hrest, hc, hu⟩
    exact ⟨[c], rest, hrest, ⟨c, rfl, hc⟩, hu⟩
  · rintro ⟨w, rest, hrest, ⟨c, rfl, hc⟩, hu⟩
    exact ⟨c, rest, hrest, hc, hu⟩

theorem HasLanguage.cat (ha : a.HasLanguage L) (hb : b.HasLanguage M) :
    (cat a b).HasLanguage fun w => ∃ y z, w = y ++ z ∧ L y ∧ M z := by
  intro t u
  rw [Matches]
  constructor
  · rintro ⟨v, hv, hu⟩
    obtain ⟨y, r, hr, hy, rfl⟩ := (ha _ _).1 hv
    obtain ⟨z, rest, hrest, hz, rfl⟩ := (hb _ _).1 hu
    have hr' : r = z ++ rest := hrest
    subst hr'
    exact ⟨y ++ z, rest, by rw [hr, List.append_assoc], ⟨y, z, rfl, hy, hz⟩, Thread.after_after⟩
  · rintro ⟨w, rest, hrest, ⟨y, z, rfl, hy, hz⟩, rfl⟩
    rw [List.append_assoc] at hrest
    refine ⟨_, (ha _ _).2 ⟨y, z ++ rest, hrest, hy, rfl⟩, (hb _ _).2 ⟨z, rest, rfl, hz, ?_⟩⟩
    rw [Thread.after_after]
    rfl

theorem HasLanguage.alt (ha : a.HasLanguage L) (hb : b.HasLanguage M) :
    (alt a b).HasLanguage fun w => L w ∨ M w := by
  intro t u
  rw [Matches, ha, hb]
  constructor
  · rintro (⟨w, rest, hrest, hw, hu⟩ | ⟨w, rest, hrest, hw, hu⟩)
    · exact ⟨w, rest, hrest, .inl hw, hu⟩
    · exact ⟨w, rest, hrest, .inr hw, hu⟩
  · rintro ⟨w, rest, hrest, hw | hw, hu⟩
    · exact .inl ⟨w, rest, hrest, hw, hu⟩
    · exact .inr ⟨w, rest, hrest, hw, hu⟩

theorem HasLanguage.optional (ha : a.HasLanguage L) :
    (times 0 (some 1) x a).HasLanguage fun w => w = [] ∨ L w := by
  intro t u
  rw [Matches]
  constructor
  · rintro ⟨k, -, hmax, hk⟩
    have hle : k ≤ 1 := hmax 1 rfl
    rcases Nat.le_one_iff_eq_zero_or_eq_one.1 hle with rfl | rfl
    · cases hk
      exact ⟨[], t.rest, rfl, .inl rfl, Thread.after_nil.symm⟩
    · obtain ⟨w, rest, hrest, hw, hu⟩ := (ha _ _).1 (rounds_one.1 hk)
      exact ⟨w, rest, hrest, .inr hw, hu⟩
  · rintro ⟨w, rest, hrest, rfl | hw, rfl⟩
    · refine ⟨0, Nat.le_refl _, by simp, ?_⟩
      have hrest' : t.rest = rest := hrest
      subst hrest'
      exact Thread.after_nil.symm
    · exact ⟨1, by simp, by simp, rounds_one.2 ((ha _ _).2 ⟨w, rest, hrest, hw, rfl⟩)⟩

theorem rounds_set : Rounds (set x s).Matches k t u ↔ ∃ w rest, t.rest = w ++ rest ∧
    (w.length = k ∧ ∀ c ∈ w, s.contains c = true) ∧ u = t.after w rest [] := by
  induction k generalizing t with
  | zero =>
    constructor
    · rintro rfl
      exact ⟨[], t.rest, rfl, by simp, Thread.after_nil.symm⟩
    · rintro ⟨w, rest, hrest, ⟨hw, -⟩, rfl⟩
      cases List.length_eq_zero_iff.1 hw
      have hrest' : t.rest = rest := hrest
      subst hrest'
      exact Thread.after_nil.symm
  | succ k ih =>
    simp only [Rounds, language_set _ _, ih]
    constructor
    · rintro ⟨v, ⟨w, r, hr, ⟨c, rfl, hc⟩, rfl⟩, w', rest, hrest, ⟨hlength, hall⟩, rfl⟩
      have hr' : r = w' ++ rest := hrest
      subst hr'
      refine ⟨c :: w', rest, hr, ⟨by simp [hlength], ?_⟩, Thread.after_after⟩
      intro d hd
      rcases List.mem_cons.1 hd with rfl | hd
      · exact hc
      · exact hall d hd
    · rintro ⟨w, rest, hrest, ⟨hlength, hall⟩, rfl⟩
      cases w with
      | nil => cases hlength
      | cons c w =>
        refine ⟨_, ⟨[c], w ++ rest, hrest, ⟨c, rfl, hall c List.mem_cons_self⟩, rfl⟩, w, rest, rfl,
          ⟨Nat.succ.inj hlength, fun d hd => hall d (List.mem_cons_of_mem _ hd)⟩, ?_⟩
        rw [Thread.after_after]
        rfl

theorem language_repeat {min : Nat} {greedy : Bool} :
    (times min none greedy (set x s)).HasLanguage
      fun w => min ≤ w.length ∧ ∀ c ∈ w, s.contains c = true := by
  intro t u
  rw [Matches]
  constructor
  · rintro ⟨k, hmin, -, hk⟩
    obtain ⟨w, rest, hrest, ⟨rfl, hall⟩, hu⟩ := rounds_set.1 hk
    exact ⟨w, rest, hrest, ⟨hmin, hall⟩, hu⟩
  · rintro ⟨w, rest, hrest, ⟨hmin, hall⟩, hu⟩
    exact ⟨w.length, hmin, by simp, rounds_set.2 ⟨w, rest, hrest, ⟨rfl, hall⟩, hu⟩⟩

theorem language_plus {greedy : Bool} :
    (times 1 none greedy (set x s)).HasLanguage
      fun w => w ≠ [] ∧ ∀ c ∈ w, s.contains c = true := by
  apply language_repeat.congr
  intro w
  rw [Nat.one_le_iff_ne_zero, Ne, List.length_eq_zero_iff]

theorem language_star {greedy : Bool} :
    (times 0 none greedy (set x s)).HasLanguage fun w => ∀ c ∈ w, s.contains c = true :=
  language_repeat.congr fun w => by simp

end Node

end StepPhrase.Regex
