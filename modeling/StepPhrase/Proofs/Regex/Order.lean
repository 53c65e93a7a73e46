import StepPhrase.Proofs.Regex.Language
import StepPhrase.Proofs.Regex.Ways

/-! Nodes that try the ways to match in order of length. -/
namespace StepPhrase.Regex

/-- Which length is tried first. -/
inductive Preference where
  | shorter
  | longer
  /-- There is one way at most, or something other than length decides. -/
  | neither
  deriving DecidableEq, Repr

namespace Preference

/-- The one length is tried before the other. -/
def Before : Preference → Nat → Nat → Prop
  | shorter, a, b => a < b
  | longer, a, b => b < a
  | neither, _, _ => False

def ofGreed (greedy : Bool) : Preference := if greedy then longer else shorter

variable {p : Preference} {a b k : Nat}

theorem before_add : p.Before (k + a) (k + b) ↔ p.Before a b := by
  cases p with
  | shorter => exact Nat.add_lt_add_iff_left
  | longer => exact Nat.add_lt_add_iff_left
  | neither => exact Iff.rfl

theorem Before.asymm (h : p.Before a b) : ¬p.Before b a := by
  cases p with
  | shorter => exact Nat.lt_asymm h
  | longer => exact Nat.lt_asymm h
  | neither => exact False.elim h

end Preference

variable {t u v : Thread} {greedy : Bool} {body : Thread → List Thread} {n : Nat}

/-- The ways are in order of what they have read. -/
def Sorted (p : Preference) (ways : List Thread) : Prop :=
  ways.Pairwise fun u v => p.Before u.position v.position

theorem sorted_toList {p : Preference} {o : Option Thread} : Sorted p o.toList := by
  cases o with
  | none => exact .nil
  | some t => exact List.pairwise_singleton _ t

/-- After one way at most, those that follow it count. -/
theorem Sorted.flatMap {p : Preference} {ways : List Thread} (h : Sorted .neither ways)
    (hbody : ∀ v ∈ ways, Sorted p (body v)) : Sorted p (ways.flatMap body) :=
  List.pairwise_flatMap.2 ⟨hbody, h.imp False.elim⟩

theorem sorted_inOrder {more : List Thread} (h : Sorted (.ofGreed greedy) more)
    (hlater : ∀ v ∈ more, t.position < v.position) :
    Sorted (.ofGreed greedy) (inOrder greedy more [t]) := by
  cases greedy with
  | true =>
    refine List.pairwise_append.2 ⟨h, List.pairwise_singleton _ t, fun v hv u hu => ?_⟩
    rw [List.mem_singleton.1 hu]
    exact hlater v hv
  | false => exact List.pairwise_cons.2 ⟨hlater, h⟩

section Rounds

variable (hlater : ∀ t, ∀ v ∈ body t, t.position < v.position)

include hlater

theorem position_le_of_mem_roundsUpTo (h : v ∈ roundsUpTo greedy body n t) :
    t.position ≤ v.position := by
  induction n generalizing t with
  | zero => exact Nat.le_of_eq (congrArg Thread.position (List.mem_singleton.1 h).symm)
  | succ n ih =>
    rcases mem_inOrder.1 h with h | h
    · obtain ⟨u, hu, h⟩ := List.mem_flatMap.1 h
      exact Nat.le_trans (Nat.le_of_lt (hlater t u hu)) (ih h)
    · exact Nat.le_of_eq (congrArg Thread.position (List.mem_singleton.1 h).symm)

/-- Where a round can go in one way only, more rounds read more. -/
theorem sorted_roundsUpTo (hone : ∀ t, Sorted .neither (body t)) :
    Sorted (.ofGreed greedy) (roundsUpTo greedy body n t) := by
  induction n generalizing t with
  | zero => exact List.pairwise_singleton _ t
  | succ n ih =>
    refine sorted_inOrder ((hone t).flatMap fun v _ => ih) fun v hv => ?_
    obtain ⟨u, hu, hv⟩ := List.mem_flatMap.1 hv
    exact Nat.lt_of_lt_of_le (hlater t u hu) (position_le_of_mem_roundsUpTo hlater hv)

end Rounds

namespace Node

variable {a b n : Node} {p : Preference} {x : Bool} {s : Unicode.CharSet} {L M : List Char → Prop}

def Ordered (n : Node) (p : Preference) : Prop := ∀ t, Sorted p (n.ways t)

theorem ordered_set : (set x s).Ordered p := fun _ => sorted_toList

theorem position_lt_of_mem_ways_set (h : v ∈ (set x s).ways t) : t.position < v.position := by
  obtain ⟨c, rest, -, -, rfl⟩ := Thread.readSet_eq_some_iff.1 (Option.mem_toList.1 h)
  exact Nat.lt_succ_self _

theorem ordered_plus : (times 1 none greedy (set x s)).Ordered (.ofGreed greedy) := by
  intro t
  have hways : (times 1 none greedy (set x s)).ways t = ((set x s).ways t).flatMap
      fun t => roundsUpTo greedy (set x s).ways (t.rest.length + 1) t := by
    simp [ways, roundsOf]
  rw [hways]
  refine (ordered_set t).flatMap fun v _ => ?_
  exact sorted_roundsUpTo (fun t v => position_lt_of_mem_ways_set) fun t => ordered_set t

theorem Ordered.group {i : Nat} (h : n.Ordered p) : (group i n).Ordered p :=
  fun t => List.pairwise_map.2 (h (t.save (2 * i)))

theorem Ordered.cat (ha : a.Ordered .neither) (hb : b.Ordered p) : (cat a b).Ordered p :=
  fun t => (ha t).flatMap fun v _ => hb v

/-- A character that may come first, where what follows never begins with one. -/
theorem ordered_optional_cat (hb : b.Ordered p) (hp : b.Progressive) (hL : b.HasLanguage L)
    (hne : ∀ c w, L (c :: w) → s.contains c = false) (hnil : ¬L []) :
    (Node.cat (times 0 (some 1) true (set x s)) b).Ordered p := by
  intro t
  have hways : (Node.cat (times 0 (some 1) true (set x s)) b).ways t =
      ((set x s).ways t).flatMap b.ways ++ b.ways t := by
    simp [ways, roundsOf, roundsUpTo, inOrder]
  rw [hways]
  refine List.pairwise_append.2 ⟨(ordered_set t).flatMap fun v _ => hb v, hb t, ?_⟩
  intro u hu v hv
  obtain ⟨t', ht', -⟩ := List.mem_flatMap.1 hu
  obtain ⟨c, rest, hrest, hc, -⟩ := Thread.readSet_eq_some_iff.1 (Option.mem_toList.1 ht')
  obtain ⟨w, rest', hrest', hw, -⟩ := (hL _ _).1 ((mem_ways hp).1 hv)
  cases w with
  | nil => exact absurd hw hnil
  | cons d w =>
    obtain rfl := (List.cons.inj (hrest.symm.trans hrest')).1
    rw [hne _ _ hw] at hc
    cases hc

/-- Alternatives of which one matches at most. -/
theorem Ordered.alt (ha : a.Ordered p) (hb : b.Ordered p) (hpa : a.Progressive)
    (hpb : b.Progressive) (hL : a.HasLanguage L) (hM : b.HasLanguage M)
    (hne : ∀ w w' rest rest', L w → M w' → w ++ rest ≠ w' ++ rest') : (Node.alt a b).Ordered p := by
  intro t
  refine List.pairwise_append.2 ⟨ha t, hb t, fun u hu v hv => ?_⟩
  obtain ⟨w, rest, hrest, hw, -⟩ := (hL _ _).1 ((mem_ways hpa).1 hu)
  obtain ⟨w', rest', hrest', hw', -⟩ := (hM _ _).1 ((mem_ways hpb).1 hv)
  exact absurd (hrest.symm.trans hrest') (hne w w' rest rest' hw hw')

end Node

end StepPhrase.Regex
