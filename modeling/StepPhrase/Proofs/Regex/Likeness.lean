import StepPhrase.Proofs.Regex.Matching
import StepPhrase.Proofs.Regex.Renumbering

/-! What a node matches depends neither on what was noted before nor on the numbers of groups. -/
namespace StepPhrase.Regex

variable {t u v t' u' : Thread} {a b a' b' n : Node} {k i j : Nat}

/-- The threads stand between the same characters. -/
def Thread.Like (t u : Thread) : Prop := t.before = u.before ∧ t.rest = u.rest

theorem Thread.Like.after {w rest : List Char} {notes notes' : List (Nat × Nat)} (h : t.Like t') :
    (t.after w rest notes).Like (t'.after w rest notes') :=
  ⟨congrArg w.getLast?.or h.1, rfl⟩

theorem Thread.Like.save {slot slot' : Nat} (h : t.Like t') : (t.save slot).Like (t'.save slot') := h

theorem Rounds.simulate {α : Type} {R R' S : α → α → Prop} {x x' y : α}
    (h : ∀ x y x', R x y → S x x' → ∃ y', R' x' y' ∧ S y y') (hr : Rounds R k x y) (hs : S x x') :
    ∃ y', Rounds R' k x' y' ∧ S y y' := by
  induction k generalizing x x' with
  | zero =>
    cases hr
    exact ⟨x', rfl, hs⟩
  | succ k ih =>
    obtain ⟨z, hz, hr⟩ := hr
    obtain ⟨z', hz', hs⟩ := h x z x' hz hs
    obtain ⟨y', hy', hs⟩ := ih hr hs
    exact ⟨y', ⟨z', hz', hy'⟩, hs⟩

namespace Node

/-- Whatever `a` matches, `b` matches as well. -/
def Mimics (a b : Node) : Prop :=
  ∀ t u t', a.Matches t u → t.Like t' → ∃ u', b.Matches t' u' ∧ u.Like u'

theorem mimics_empty : Mimics empty empty := by
  rintro t u t' rfl ht
  exact ⟨t', rfl, ht⟩

theorem mimics_literal {s : List Char} : Mimics (literal s) (literal s) := by
  intro t u t' h ht
  obtain ⟨rest, hrest, rfl⟩ := Thread.readText_eq_some_iff.1 h
  exact ⟨t'.after s rest [], Thread.readText_eq_some_iff.2 ⟨rest, ht.2 ▸ hrest, rfl⟩, ht.after⟩

theorem mimics_set {x : Bool} {s : Unicode.CharSet} : Mimics (set x s) (set x s) := by
  intro t u t' h ht
  obtain ⟨c, rest, hrest, hc, rfl⟩ := Thread.readSet_eq_some_iff.1 h
  exact ⟨t'.after [c] rest [], Thread.readSet_eq_some_iff.2 ⟨c, rest, ht.2 ▸ hrest, hc, rfl⟩,
    ht.after⟩

theorem mimics_look {l : Look} : Mimics (look l) (look l) := by
  rintro t u t' ⟨hl, rfl⟩ ht
  exact ⟨t', ⟨ht.1 ▸ ht.2 ▸ hl, rfl⟩, ht⟩

theorem Mimics.cat (ha : a.Mimics a') (hb : b.Mimics b') : (cat a b).Mimics (cat a' b') := by
  rintro t u t' ⟨v, hv, hu⟩ ht
  obtain ⟨v', hv', hl⟩ := ha t v t' hv ht
  obtain ⟨u', hu', hl⟩ := hb v u v' hu hl
  exact ⟨u', ⟨v', hv', hu'⟩, hl⟩

theorem Mimics.alt (ha : a.Mimics a') (hb : b.Mimics b') : (alt a b).Mimics (alt a' b') := by
  rintro t u t' (h | h) ht
  · obtain ⟨u', hu', hl⟩ := ha t u t' h ht
    exact ⟨u', .inl hu', hl⟩
  · obtain ⟨u', hu', hl⟩ := hb t u t' h ht
    exact ⟨u', .inr hu', hl⟩

theorem Mimics.group (ha : a.Mimics a') : (group i a).Mimics (group j a') := by
  rintro t u t' ⟨v, hv, rfl⟩ ht
  obtain ⟨v', hv', hl⟩ := ha _ v (t'.save (2 * j)) hv ht.save
  exact ⟨_, ⟨v', hv', rfl⟩, hl.save⟩

theorem Mimics.times {min : Nat} {max : Option Nat} {x : Bool} (ha : a.Mimics a') :
    (times min max x a).Mimics (times min max x a') := by
  rintro t u t' ⟨k, hmin, hmax, hr⟩ ht
  obtain ⟨u', hr', hl⟩ := hr.simulate ha ht
  exact ⟨u', ⟨k, hmin, hmax, hr'⟩, hl⟩

theorem mimics_shift : n.Mimics (n.shift k) ∧ (n.shift k).Mimics n := by
  induction n with
  | empty => exact ⟨mimics_empty, mimics_empty⟩
  | literal s => exact ⟨mimics_literal, mimics_literal⟩
  | set x s => exact ⟨mimics_set, mimics_set⟩
  | look l => exact ⟨mimics_look, mimics_look⟩
  | cat a b iha ihb => exact ⟨iha.1.cat ihb.1, iha.2.cat ihb.2⟩
  | alt a b iha ihb => exact ⟨iha.1.alt ihb.1, iha.2.alt ihb.2⟩
  | group i a ih => exact ⟨ih.1.group, ih.2.group⟩
  | times min max x a ih => exact ⟨ih.1.times, ih.2.times⟩

end Node

end StepPhrase.Regex
