import StepPhrase.Proofs.Regex.Building
import StepPhrase.Regex.Reader

/-! The groups of a tree are among those that were opened while its text was read. -/
namespace StepPhrase.Regex

variable {n : Node} {ns : List Node} {k m fuel : Nat} {a : Char} {s s' f : List Char}

/-- All groups of the node are among the first `k`. -/
def Node.AmongFirst (k : Nat) (n : Node) : Prop := ∀ i ∈ n.groups, 0 < i ∧ i ≤ k

theorem Node.AmongFirst.mono (h : n.AmongFirst k) (hle : k ≤ m) : n.AmongFirst m :=
  fun i hi => ⟨(h i hi).1, Nat.le_trans (h i hi).2 hle⟩

namespace Part

/-- All groups of the parts are among the first `k`. -/
def AmongFirst (k : Nat) (ps : List Part) : Prop := ∀ p ∈ ps, p.node.AmongFirst k

variable {p : Part} {ps : List Part}

theorem AmongFirst.mono (h : AmongFirst k ps) (hle : k ≤ m) : AmongFirst m ps :=
  fun p hp => (h p hp).mono hle

theorem AmongFirst.cons (hp : p.node.AmongFirst k) (h : AmongFirst k ps) :
    AmongFirst k (p :: ps) := by
  intro q hq
  rcases List.mem_cons.1 hq with rfl | hq
  · exact hp
  · exact h q hq

theorem amongFirst_nil : AmongFirst k [] := fun p hp => by cases hp

theorem AmongFirst.concat (h : AmongFirst k ps) : (concat ps).node.AmongFirst k := by
  intro i hi
  rw [Part.concat, Node.groups_concatReversed] at hi
  obtain ⟨n, hn, hi⟩ := List.mem_flatMap.1 hi
  obtain ⟨p, hp, rfl⟩ := List.mem_map.1 (List.mem_reverse.1 hn)
  exact h p hp i hi

theorem AmongFirst.choose (h : AmongFirst k ps) : (choose ps).node.AmongFirst k := by
  intro i hi
  obtain ⟨n, hn, hi⟩ := List.mem_flatMap.1 (Node.groups_chooseReversed hi)
  obtain ⟨p, hp, rfl⟩ := List.mem_map.1 hn
  exact h p hp i hi

end Part

namespace Reading

variable {r r₁ : Reading}

/-- What one construct can do to a reading. -/
inductive Move (r : Reading) : Reading → Prop
  | openCapture (names : List (List Char)) : Move r { r.openCapture with names }
  | openGroup (flags : Flags) : Move r (r.openGroup none flags)
  | closeGroup {r₁ : Reading} : r.closeGroup = some r₁ → Move r r₁
  | nextBranch : Move r r.nextBranch
  | repeatLast {r₁ : Reading} {min : Nat} {max : Option Nat} {greedy : Bool} :
    r.repeatLast min max greedy = some r₁ → Move r r₁
  | push (flags : Flags) (p : Part) : p.node.groups = [] → Move r ({ r with flags }.push p)

theorem move_pushSet {set : Unicode.CharSet} {height : Nat} : Move r (r.pushSet set height) :=
  .push r.flags _ Node.groups_ofSet

theorem move_pushChar {b : Bool} (h : r.pushChar a b = some r₁) : Move r r₁ := by
  unfold pushChar at h
  split at h
  · cases h
    exact move_pushSet
  · split at h
    · cases h
    · cases h
      exact .push r.flags _ rfl

theorem move_pushAtom {x : Atom} (h : r.pushAtom x = some r₁) : Move r r₁ := by
  cases x with
  | char c b => exact move_pushChar h
  | look l =>
    cases h
    exact .push r.flags _ rfl
  | set set =>
    cases h
    exact move_pushSet

theorem move_pushDot (h : r.pushDot = some r₁) : Move r r₁ := by
  unfold pushDot at h
  split at h
  · cases h
  · split at h
    · cases h
      exact move_pushSet
    · split at h
      all_goals
        cases h
        exact move_pushSet

theorem move_openNamed (h : r.openNamed s = some (r₁, s')) : Move r r₁ := by
  unfold openNamed at h
  dsimp only at h
  split at h
  · split at h
    · cases h
      exact .openCapture _
    · cases h
  · cases h

theorem move_readGroup (h : r.readGroup s = some (r₁, s')) : Move r r₁ := by
  unfold readGroup at h
  split at h
  case h_5 | h_6 => exact move_openNamed h
  case h_7 =>
    split at h
    · cases h
    · split at h
      · cases h
        exact .openGroup _
      · split at h
        · cases h
          exact .push _ _ rfl
        · cases h
  case h_8 =>
    cases h
    exact .openCapture _
  all_goals cases h

theorem move_readMark {min : Nat} {max : Option Nat} (h : r.readMark min max s = some (r₁, s')) :
    Move r r₁ := by
  unfold readMark at h
  split at h
  all_goals
    obtain ⟨r', hr, h⟩ := Option.map_eq_some_iff.1 h
    cases h
    exact .repeatLast hr

theorem move_of_step (h : r.step a s = some (r₁, s')) : Move r r₁ := by
  unfold step at h
  split at h
  · exact move_readGroup h
  · obtain ⟨r', hr, h⟩ := Option.map_eq_some_iff.1 h
    cases h
    exact .closeGroup hr
  · cases h
    exact .nextBranch
  · split at h
    · cases h
      exact move_pushSet
    · cases h
  · exact move_readMark h
  · exact move_readMark h
  · exact move_readMark h
  · split at h
    · exact move_readMark h
    · cases h
  · split at h
    · obtain ⟨r', hr, h⟩ := Option.map_eq_some_iff.1 h
      cases h
      exact move_pushAtom hr
    · cases h
  · obtain ⟨r', hr, h⟩ := Option.map_eq_some_iff.1 h
    cases h
    exact move_pushDot hr
  · cases h
    exact .push r.flags _ rfl
  · cases h
    exact .push r.flags _ rfl
  · obtain ⟨r', hr, h⟩ := Option.map_eq_some_iff.1 h
    cases h
    exact move_pushChar hr

/-- The groups in a reading are among those it has counted. -/
structure Counted (r : Reading) : Prop where
  items : Part.AmongFirst r.groups r.items
  branches : Part.AmongFirst r.groups r.branches
  outer : ∀ g ∈ r.outer, (∀ i, g.index = some i → 0 < i ∧ i ≤ r.groups) ∧
    Part.AmongFirst r.groups g.items ∧ Part.AmongFirst r.groups g.branches

theorem Counted.body (h : Counted r) : r.body.node.AmongFirst r.groups :=
  Part.AmongFirst.choose (.cons h.items.concat h.branches)

theorem counted_of_move (h : Counted r) (hm : Move r r₁) : Counted r₁ := by
  cases hm with
  | openCapture names =>
    have hle : r.groups ≤ r.groups + 1 := Nat.le_succ _
    refine ⟨Part.amongFirst_nil, Part.amongFirst_nil, fun g hg => ?_⟩
    rcases List.mem_cons.1 hg with rfl | hg
    · refine ⟨?_, h.items.mono hle, h.branches.mono hle⟩
      rintro i hi
      cases hi
      exact ⟨Nat.succ_pos _, Nat.le_refl _⟩
    · obtain ⟨hindex, hitems, hbranches⟩ := h.outer g hg
      exact ⟨fun i hi => ⟨(hindex i hi).1, Nat.le_trans (hindex i hi).2 hle⟩, hitems.mono hle,
        hbranches.mono hle⟩
  | openGroup flags =>
    refine ⟨Part.amongFirst_nil, Part.amongFirst_nil, fun g hg => ?_⟩
    rcases List.mem_cons.1 hg with rfl | hg
    · exact ⟨by simp, h.items, h.branches⟩
    · exact h.outer g hg
  | closeGroup hr =>
    unfold closeGroup at hr
    split at hr
    · cases hr
    · rename_i g outer houter
      cases hr
      obtain ⟨hindex, hitems, hbranches⟩ := h.outer g (by simp [houter])
      refine ⟨.cons ?_ hitems, hbranches, fun g' hg' => h.outer g' (by simp [houter, hg'])⟩
      dsimp only
      split
      · exact h.body
      · rename_i i hi
        intro j hj
        rcases List.mem_cons.1 hj with rfl | hj
        · exact hindex _ hi
        · exact h.body j hj
  | nextBranch => exact ⟨Part.amongFirst_nil, .cons h.items.concat h.branches, h.outer⟩
  | repeatLast hr =>
    unfold repeatLast at hr
    split at hr
    · cases hr
    · rename_i p items hitems
      split at hr
      · cases hr
      · cases hr
        have hp : p.node.AmongFirst r.groups := h.items p (by simp [hitems])
        refine ⟨.cons (fun i hi => hp i (Node.groups_repeated hi)) fun q hq => ?_, h.branches, h.outer⟩
        exact h.items q (by simp [hitems, hq])
  | push flags p hp => exact ⟨.cons (fun i hi => by simp [hp] at hi) h.items, h.branches, h.outer⟩

theorem counted_of_run (h : Counted r) (hr : run fuel r s = some r₁) : Counted r₁ := by
  induction fuel generalizing r s with
  | zero =>
    unfold run at hr
    split at hr
    · cases hr
      exact h
    · cases hr
  | succ fuel ih =>
    rw [run] at hr
    split at hr
    · cases hr
      exact h
    · dsimp only at hr
      split at hr
      · rename_i hstep
        exact ih (counted_of_move h (move_of_step hstep)) hr
      · cases hr

theorem counted_empty : Counted {} :=
  ⟨Part.amongFirst_nil, Part.amongFirst_nil, fun g hg => by cases hg⟩

end Reading

end StepPhrase.Regex
