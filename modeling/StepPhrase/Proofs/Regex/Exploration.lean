import Mathlib.Data.Finset.Prod
import StepPhrase.Proofs.Regex.Joins
import StepPhrase.Proofs.Regex.Path

/-! The search finds a match where there is one: gates, and the bound on the steps, lose none. -/
namespace StepPhrase.Regex

/-- How many characters an instruction reads. -/
def Instruction.width : Instruction → Nat
  | text cs => cs.length
  | set _ => 1
  | look _ | save _ | jump _ | split .. | gate _ | accept => 0

namespace Thread

/-- The thread has read a part of the text, and the rest is left. -/
def At (text : List Char) (t : Thread) : Prop :=
  ∃ pre, text = pre ++ t.rest ∧ t.position = pre.length ∧ t.before = pre.getLast?

/-- The thread that begins after `pre` and in front of `rest`. -/
def start (pre rest : List Char) : Thread :=
  { address := 0, position := pre.length, before := pre.getLast?, rest }

/-- Where a thread is: in the program, and in the text. -/
def key (t : Thread) : Nat × Nat := (t.address, t.position)

variable {text w rest : List Char} {t u : Thread} {notes : List (Nat × Nat)} {a : Nat}

theorem at_start {pre : List Char} (h : text = pre ++ rest) : (start pre rest).At text :=
  ⟨pre, h, rfl, rfl⟩

theorem At.after (h : t.At text) (hr : t.rest = w ++ rest) : (t.after w rest notes).At text := by
  obtain ⟨pre, rfl, hp, hb⟩ := h
  refine ⟨pre ++ w, by simp [hr, Thread.after], by simp [hp, Thread.after], ?_⟩
  simp [Thread.after, hb, List.getLast?_append]

theorem At.goto (h : t.At text) : (t.goto a).At text := h

theorem At.position_le (h : t.At text) : t.position ≤ text.length := by
  obtain ⟨pre, rfl, hp, -⟩ := h
  simp [hp]

/-- The position tells what was read and what is left. -/
theorem At.same (h : t.At text) (h' : u.At text) (hp : t.position = u.position) :
    t.rest = u.rest ∧ t.before = u.before := by
  obtain ⟨pre, he, hl, hb⟩ := h
  obtain ⟨pre', he', hl', hb'⟩ := h'
  obtain ⟨rfl, hr⟩ := List.append_inj (he.symm.trans he') (by omega)
  exact ⟨hr, hb.trans hb'.symm⟩

end Thread

namespace Program

variable {p : Program} {text : List Char} {t u v : Thread} {a : Instruction} {k : Nat}

/-- What a step does: it reads as much as the instruction does, and goes to one of its targets. -/
theorem mem_nexts (ha : p.code[t.address]? = some a) (hv : v ∈ p.nexts t) :
    v.address ∈ a.targets t.address ∧ ∃ w rest notes, t.rest = w ++ rest ∧
      w.length = a.width ∧ v = (t.after w rest notes).goto v.address := by
  have hstay : ∀ address, t.goto address = (t.after [] t.rest []).goto address := by
    simp [Thread.after_nil]
  unfold nexts at hv
  rw [ha] at hv
  cases a with
  | text cs =>
    simp only [List.mem_map, Option.mem_toList, Thread.readText_eq_some_iff] at hv
    obtain ⟨_, ⟨rest, hr, rfl⟩, rfl⟩ := hv
    exact ⟨List.mem_singleton.2 rfl, cs, rest, [], hr, rfl, rfl⟩
  | set s =>
    simp only [List.mem_map, Option.mem_toList, Thread.readSet_eq_some_iff] at hv
    obtain ⟨_, ⟨c, rest, hr, -, rfl⟩, rfl⟩ := hv
    exact ⟨List.mem_singleton.2 rfl, [c], rest, [], hr, rfl, rfl⟩
  | look l =>
    simp only at hv
    split at hv
    · obtain rfl := List.mem_singleton.1 hv
      exact ⟨List.mem_singleton.2 rfl, [], t.rest, [], rfl, rfl, hstay _⟩
    · simp at hv
  | save slot =>
    obtain rfl := List.mem_singleton.1 hv
    exact ⟨List.mem_singleton.2 rfl, [], t.rest, [(slot, t.position)], rfl, rfl, by
      simp [Thread.save, Thread.next, Thread.goto, Thread.after]⟩
  | jump target =>
    obtain rfl := List.mem_singleton.1 hv
    exact ⟨List.mem_singleton.2 rfl, [], t.rest, [], rfl, rfl, hstay _⟩
  | split first other =>
    simp only [List.mem_cons, List.not_mem_nil, or_false] at hv
    rcases hv with rfl | rfl
    · exact ⟨by simp [Instruction.targets, Thread.goto], [], t.rest, [], rfl, rfl, hstay _⟩
    · exact ⟨by simp [Instruction.targets, Thread.goto], [], t.rest, [], rfl, rfl, hstay _⟩
  | gate g =>
    obtain rfl := List.mem_singleton.1 hv
    exact ⟨List.mem_singleton.2 rfl, [], t.rest, [], rfl, rfl, hstay _⟩
  | accept => simp at hv

theorem position_of_mem_nexts (ha : p.code[t.address]? = some a) (hv : v ∈ p.nexts t) :
    v.position = t.position + a.width := by
  obtain ⟨-, w, rest, notes, -, hw, he⟩ := mem_nexts ha hv
  rw [he, ← hw]
  rfl

theorem code_of_mem_nexts (hv : v ∈ p.nexts t) : ∃ a, p.code[t.address]? = some a := by
  cases h : p.code[t.address]? with
  | none => simp [nexts, h] at hv
  | some a => exact ⟨a, rfl⟩

theorem edge_of_mem_nexts (hv : v ∈ p.nexts t) : p.Edge t.address v.address := by
  obtain ⟨a, ha⟩ := code_of_mem_nexts hv
  exact ⟨a, ha, (mem_nexts ha hv).1⟩

theorem at_of_mem_nexts (h : t.At text) (hv : v ∈ p.nexts t) : v.At text := by
  obtain ⟨a, ha⟩ := code_of_mem_nexts hv
  obtain ⟨-, w, rest, notes, hr, -, he⟩ := mem_nexts ha hv
  rw [he]
  exact (h.after hr).goto

/-- Where threads go on depends on where they are only, not on their notes. -/
theorem key_nexts (h : t.At text) (h' : u.At text) (hk : t.key = u.key) :
    (p.nexts t).map Thread.key = (p.nexts u).map Thread.key := by
  obtain ⟨haddr, hpos⟩ := Prod.mk.inj hk
  obtain ⟨hrest, hbefore⟩ := h.same h' hpos
  have htext : ∀ cs, ((t.readText cs).toList.map Thread.next).map Thread.key =
      ((u.readText cs).toList.map Thread.next).map Thread.key := by
    intro cs
    have hsome : ∀ {x y : Thread}, x.rest = y.rest → x.address = y.address →
        x.position = y.position → ∀ {z}, x.readText cs = some z →
        ∃ z', y.readText cs = some z' ∧ z'.next.key = z.next.key := by
      intro x y hr ha hp z hz
      obtain ⟨rest, he, rfl⟩ := Thread.readText_eq_some_iff.1 hz
      refine ⟨_, Thread.readText_eq_some_iff.2 ⟨rest, hr ▸ he, rfl⟩, ?_⟩
      simp [Thread.key, Thread.next, Thread.goto, Thread.after, ha, hp]
    cases hz : t.readText cs with
    | some z =>
      obtain ⟨z', hz', he⟩ := hsome hrest haddr hpos hz
      simp [hz', he]
    | none =>
      cases hz' : u.readText cs with
      | none => rfl
      | some z' =>
        obtain ⟨z, hz'', -⟩ := hsome hrest.symm haddr.symm hpos.symm hz'
        rw [hz] at hz''
        cases hz''
  unfold nexts
  rw [← haddr]
  cases ha : p.code[t.address]? with
  | none => rfl
  | some a =>
    cases a with
    | text cs => exact htext cs
    | set s =>
      simp only [Thread.readSet, hrest]
      cases u.rest with
      | nil => rfl
      | cons c rest =>
        simp only
        split <;> simp [Thread.key, Thread.next, Thread.goto, haddr, hpos]
    | look l =>
      simp only [hrest, hbefore]
      split <;> simp [Thread.key, Thread.next, Thread.goto, haddr, hpos]
    | save slot => simp [Thread.key, Thread.next, Thread.goto, Thread.save, haddr, hpos]
    | jump target => simp [Thread.key, Thread.goto, hpos]
    | split first other => simp [Thread.key, Thread.goto, hpos]
    | gate g => simp [Thread.key, Thread.next, Thread.goto, haddr, hpos]
    | accept => rfl

/-! Steps of the exploration -/

/-- Whether the gate was passed at the position. -/
def Passes (passed : Passed) (position gate : Nat) : Prop :=
  (passed.getD position {}).contains gate = true

variable {fuel : Nat} {stack others : List Thread} {passed passed' : Passed}

theorem explore_empty : p.explore fuel [] passed = (none, passed) := by
  cases fuel <;> rfl

/-- The threads that exploring `t` puts in its place, and the gates that are passed then. -/
inductive Visits (p : Program) (t : Thread) (passed : Passed) : List Thread → Passed → Prop
  | dead (h : p.code[t.address]? = none) : Visits p t passed [] passed
  | blocked {g : Nat} (h : p.code[t.address]? = some (.gate g))
    (hp : Passes passed t.position g) : Visits p t passed [] passed
  | gate {g : Nat} (h : p.code[t.address]? = some (.gate g))
    (hp : ¬Passes passed t.position g) : Visits p t passed (p.nexts t)
      (passed.setIfInBounds t.position ((passed.getD t.position {}).insert g))
  | step {a : Instruction} (h : p.code[t.address]? = some a) (hacc : a ≠ .accept)
    (hplain : ¬p.IsGate t.address) : Visits p t passed (p.nexts t) passed

variable {vs : List Thread}

theorem Visits.subset_nexts (h : p.Visits t passed vs passed') : vs ⊆ p.nexts t := by
  cases h with
  | dead | blocked => exact List.nil_subset _
  | gate | step => exact List.Subset.refl _

theorem Visits.size_eq (h : p.Visits t passed vs passed') : passed'.size = passed.size := by
  cases h with
  | gate => exact Array.size_setIfInBounds
  | dead | blocked | step => rfl

theorem Visits.not_accept (h : p.Visits t passed vs passed') :
    p.code[t.address]? ≠ some .accept := by
  intro hacc
  cases h with
  | dead h => simp [h] at hacc
  | blocked h | gate h => simp [h] at hacc
  | step h hne => exact hne (Option.some.inj (h.symm.trans hacc))

theorem explore_step (h : p.code[t.address]? = some a) (hacc : a ≠ .accept)
    (hplain : ¬p.IsGate t.address) :
    p.explore (fuel + 1) (t :: others) passed =
      p.explore fuel (p.nexts t ++ others) passed := by
  cases a with
  | text cs => cases hr : t.readText cs <;> simp [explore, nexts, h, hr]
  | set s => cases hr : t.readSet s <;> simp [explore, nexts, h, hr]
  | look l =>
    simp only [explore, nexts, h]
    split <;> rfl
  | save slot => simp [explore, nexts, h]
  | jump target => simp [explore, nexts, h]
  | split first other => simp [explore, nexts, h]
  | gate g => exact absurd ⟨g, h⟩ hplain
  | accept => exact absurd rfl hacc

/-- What the exploration does with the thread on top. -/
theorem explore_cases {result : Option Thread × Passed}
    (h : p.explore (fuel + 1) (t :: others) passed = result) :
    p.code[t.address]? = some .accept ∧ result = (some t, passed) ∨
      ∃ vs passed₁, p.Visits t passed vs passed₁ ∧
        p.explore fuel (vs ++ others) passed₁ = result := by
  subst h
  by_cases hgate : p.IsGate t.address
  · obtain ⟨g, hg⟩ := hgate
    by_cases hp : Passes passed t.position g
    · refine .inr ⟨[], passed, .blocked hg hp, ?_⟩
      simp only [explore, hg]
      exact (if_pos hp).symm
    · refine .inr ⟨_, _, .gate hg hp, ?_⟩
      simp only [explore, nexts, hg]
      exact (if_neg hp).symm
  · cases ha : p.code[t.address]? with
    | none => exact .inr ⟨[], passed, .dead ha, by simp [explore, ha]⟩
    | some a =>
      by_cases hacc : a = .accept
      · subst a
        exact .inl ⟨rfl, by simp [explore, ha]⟩
      · exact .inr ⟨_, _, .step ha hacc hgate, (explore_step ha hacc hgate).symm⟩

/-- What is found, a path leads to from one of the threads. -/
theorem accepts_of_explore (h : p.explore fuel stack passed = (some u, passed')) :
    ∃ t ∈ stack, ∃ k, p.Accepts k t u := by
  induction fuel generalizing stack passed with
  | zero => simp [explore] at h
  | succ fuel ih =>
    cases stack with
    | nil => simp [explore] at h
    | cons t others =>
      rcases explore_cases h with ⟨hacc, he⟩ | ⟨vs, passed₁, hv, h⟩
      · cases he
        exact ⟨u, List.mem_cons_self, 0, .done hacc⟩
      · obtain ⟨s, hs, k, hk⟩ := ih h
        rcases List.mem_append.1 hs with hs | hs
        · exact ⟨t, List.mem_cons_self, k + 1, .step (hv.subset_nexts hs) hk⟩
        · exact ⟨s, List.mem_cons_of_mem t hs, k, hk⟩

/-! What was explored -/

/-- The state of an exploration of which the places in `F` are done with, and the threads of the
stack are left. Starts were at positions below `begun`. Ways out of `F` lead into `F`, to the stack,
or nowhere; and places that are no gates come up once, since one way leads to each. -/
structure Explored (p : Program) (text : List Char) (begun : Nat) (F : Finset (Nat × Nat))
    (stack : List Thread) (passed : Passed) : Prop where
  size : passed.size = text.length + 1
  reads : ∀ t ∈ stack, t.At text
  bounded : ∀ x ∈ F, x.1 < p.size ∧ x.2 ≤ text.length
  rejects : ∀ x ∈ F, p.code[x.1]? ≠ some .accept
  closed : ∀ t : Thread, t.At text → t.key ∈ F → ∀ v ∈ p.nexts t,
    v.key ∈ F ∨ v.key ∈ stack.map Thread.key ∨ p.code[v.address]? = none
  gates : ∀ {i g position : Nat}, p.code[i]? = some (.gate g) →
    ((i, position) ∈ F ↔ Passes passed position g)
  fresh : ∀ t ∈ stack, t.key ∈ F → p.IsGate t.address
  once : stack.Pairwise fun t u => t.key = u.key → p.IsGate t.address
  origin : ∀ x : Nat × Nat, (x ∈ F ∨ x ∈ stack.map Thread.key) → ¬p.IsGate x.1 →
    (x.1 = 0 ∧ x.2 < begun) ∨
      ∃ t : Thread, t.At text ∧ t.key ∈ F ∧ ∃ v ∈ p.nexts t, v.key = x

theorem pairwise_nexts (hp : p.Orderly) :
    (p.nexts t).Pairwise fun u v => u.key = v.key → p.IsGate u.address := by
  cases hc : p.code[t.address]? with
  | none => simp [nexts, hc]
  | some a =>
    cases a with
    | text cs => cases hr : t.readText cs <;> simp [nexts, hc, hr]
    | set s => cases hr : t.readSet s <;> simp [nexts, hc, hr]
    | look l =>
      simp only [nexts, hc]
      split <;> simp
    | split first other =>
      simp only [nexts, hc, List.pairwise_cons, List.mem_singleton, forall_eq, List.not_mem_nil,
        false_implies, implies_true, List.Pairwise.nil, and_self, and_true]
      intro he
      obtain rfl : first = other := (Prod.mk.inj he).1
      exact hp.apart hc
    | _ => simp [nexts, hc]

namespace Explored

variable {F : Finset (Nat × Nat)} {begun : Nat}

theorem pop (h : p.Explored text begun F (t :: others) passed)
    (ht : t.key ∈ F ∨ p.code[t.address]? = none) : p.Explored text begun F others passed where
  size := h.size
  reads u hu := h.reads u (List.mem_cons_of_mem t hu)
  bounded := h.bounded
  rejects := h.rejects
  closed u hu hF v hv := by
    rcases h.closed u hu hF v hv with hv | hv | hv
    · exact .inl hv
    · rcases List.mem_cons.1 hv with he | hv
      · rcases ht with ht | ht
        · exact .inl (he ▸ ht)
        · rw [← (Prod.mk.inj he).1] at ht
          exact .inr (.inr ht)
      · exact .inr (.inl hv)
    · exact .inr (.inr hv)
  gates := h.gates
  fresh u hu := h.fresh u (List.mem_cons_of_mem t hu)
  once := (List.pairwise_cons.1 h.once).2
  origin x hx := h.origin x (hx.imp_right (List.mem_cons_of_mem _))

/-- A place that a thread goes on to was not met before, unless it is a gate. -/
theorem not_met (h : p.Explored text begun F (t :: others) passed) (hp : p.Orderly)
    (hnew : t.key ∉ F) (hv : v ∈ p.nexts t) (hg : ¬p.IsGate v.address) :
    v.key ∉ F ∧ v.key ∉ (t :: others).map Thread.key := by
  rw [← not_or]
  intro hmet
  have hedge := edge_of_mem_nexts hv
  rcases h.origin v.key hmet hg with ⟨hz, -⟩ | ⟨u, hu, hF, w, hw, he⟩
  · rw [show v.address = 0 from hz] at hedge hg
    exact hg (hp.start hedge)
  · obtain ⟨haddr, hpos⟩ := Prod.mk.inj he
    have hu' := edge_of_mem_nexts hw
    rw [haddr] at hu'
    have hsame := hp.unique hu' hedge hg
    obtain ⟨a, ha⟩ := code_of_mem_nexts hv
    have hpv := position_of_mem_nexts ha hv
    have hpw := position_of_mem_nexts (hsame ▸ ha) hw
    have hk : u.key = t.key := Prod.ext hsame (by simp only [Thread.key]; omega)
    exact hnew (hk ▸ hF)

theorem fire (h : p.Explored text begun F (t :: others) passed) (hp : p.Orderly)
    (ha : p.code[t.address]? = some a) (hacc : a ≠ .accept) (hnew : t.key ∉ F)
    (hsize : passed'.size = passed.size)
    (hgates : ∀ {i g position : Nat}, p.code[i]? = some (.gate g) →
      (Passes passed' position g ↔ (i, position) = t.key ∨ Passes passed position g)) :
    p.Explored text begun (insert t.key F) (p.nexts t ++ others) passed' := by
  have hat := h.reads t List.mem_cons_self
  have hothers : ∀ {u}, u ∈ others → u ∈ t :: others := List.mem_cons_of_mem t
  constructor
  · exact hsize.trans h.size
  · intro u hu
    rcases List.mem_append.1 hu with hu | hu
    · exact at_of_mem_nexts hat hu
    · exact h.reads u (hothers hu)
  · intro x hx
    rcases Finset.mem_insert.1 hx with rfl | hx
    · exact ⟨(Array.getElem?_eq_some_iff.1 ha).1, hat.position_le⟩
    · exact h.bounded x hx
  · intro x hx
    rcases Finset.mem_insert.1 hx with rfl | hx
    · intro he
      exact hacc (Option.some.inj (ha.symm.trans he))
    · exact h.rejects x hx
  · intro u hu hF v hv
    rw [List.map_append, List.mem_append, Finset.mem_insert]
    rcases Finset.mem_insert.1 hF with hk | hF
    · have := List.mem_map_of_mem (f := Thread.key) hv
      rw [key_nexts hu hat hk] at this
      exact .inr (.inl (.inl this))
    · rcases h.closed u hu hF v hv with hv | hv | hv
      · exact .inl (.inr hv)
      · rcases List.mem_cons.1 hv with hv | hv
        · exact .inl (.inl hv)
        · exact .inr (.inl (.inr hv))
      · exact .inr (.inr hv)
  · intro i g position hi
    rw [Finset.mem_insert, h.gates hi, hgates hi]
  · intro u hu hF
    by_contra hg
    rcases List.mem_append.1 hu with hu | hu
    · obtain ⟨hn, hn'⟩ := h.not_met hp hnew hu hg
      rcases Finset.mem_insert.1 hF with hF | hF
      · exact hn' (List.mem_cons.2 (.inl hF))
      · exact hn hF
    · rcases Finset.mem_insert.1 hF with hF | hF
      · have hone := (List.pairwise_cons.1 h.once).1 u hu hF.symm
        rw [← (Prod.mk.inj hF).1] at hone
        exact hg hone
      · exact hg (h.fresh u (hothers hu) hF)
  · refine List.pairwise_append.2 ⟨pairwise_nexts hp, (List.pairwise_cons.1 h.once).2, ?_⟩
    intro v hv u hu he
    by_contra hg
    obtain ⟨-, hn⟩ := h.not_met hp hnew hv hg
    exact hn (he ▸ List.mem_map_of_mem (hothers hu))
  · intro x hx hg
    have hold : (x ∈ F ∨ x ∈ (t :: others).map Thread.key) ∨ x ∈ (p.nexts t).map Thread.key := by
      rw [List.map_append, List.mem_append, Finset.mem_insert] at hx
      rw [List.map_cons, List.mem_cons]
      tauto
    rcases hold with hold | hnext
    · rcases h.origin x hold hg with hz | ⟨u, hu, hF, v, hv, he⟩
      · exact .inl hz
      · exact .inr ⟨u, hu, Finset.mem_insert_of_mem hF, v, hv, he⟩
    · obtain ⟨v, hv, rfl⟩ := List.mem_map.1 hnext
      exact .inr ⟨t, hat, Finset.mem_insert_self _ _, v, hv, rfl⟩

/-- The places that are left, and the threads of the stack, bound the steps. -/
def stepsLeft (p : Program) (text : List Char) (F : Finset (Nat × Nat)) (stack : List Thread) :
    Nat :=
  stack.length + 2 * (p.size * (text.length + 1) - F.card)

theorem card_lt (h : p.Explored text begun F stack passed) {x : Nat × Nat} (hx : x ∉ F)
    (hb : x.1 < p.size ∧ x.2 ≤ text.length) : F.card < p.size * (text.length + 1) := by
  have hsub : insert x F ⊆ Finset.range p.size ×ˢ Finset.range (text.length + 1) := by
    intro y hy
    have hy : y.1 < p.size ∧ y.2 ≤ text.length := by
      rcases Finset.mem_insert.1 hy with rfl | hy
      · exact hb
      · exact h.bounded y hy
    simpa [Nat.lt_succ_iff] using hy
  have hcard := Finset.card_le_card hsub
  rw [Finset.card_insert_of_notMem hx, Finset.card_product, Finset.card_range,
    Finset.card_range] at hcard
  exact hcard

end Explored

theorem length_nexts_le : (p.nexts t).length ≤ 2 := by
  cases hc : p.code[t.address]? with
  | none => simp [nexts, hc]
  | some a =>
    cases a with
    | text cs => cases hr : t.readText cs <;> simp [nexts, hc, hr]
    | set s => cases hr : t.readSet s <;> simp [nexts, hc, hr]
    | look l =>
      simp only [nexts, hc]
      split <;> simp
    | _ => simp [nexts, hc]

theorem passes_mark {position gate position' gate' : Nat} (h : position < passed.size) :
    Passes (passed.setIfInBounds position ((passed.getD position {}).insert gate)) position' gate' ↔
      (position' = position ∧ gate' = gate) ∨ Passes passed position' gate' := by
  simp only [Passes, Array.getD_eq_getD_getElem?, Array.getElem?_setIfInBounds]
  by_cases he : position = position'
  · subst he
    have hg : gate = gate' ↔ gate' = gate := eq_comm
    simp [h, NatSet.contains_insert, hg]
  · simp [he, Ne.symm he]

theorem passes_of_gate {g i gate position : Nat} (hp : p.Orderly)
    (ha : p.code[t.address]? = some (.gate g)) (hlt : t.position < passed.size)
    (hi : p.code[i]? = some (.gate gate)) :
    Passes (passed.setIfInBounds t.position ((passed.getD t.position {}).insert g)) position gate ↔
      (i, position) = t.key ∨ Passes passed position gate := by
  rw [passes_mark hlt]
  apply or_congr_left
  constructor
  · rintro ⟨rfl, rfl⟩
    exact Prod.ext (hp.once hi ha) rfl
  · intro hk
    obtain ⟨rfl, rfl⟩ := Prod.mk.inj hk
    rw [hi] at ha
    cases ha
    exact ⟨rfl, rfl⟩

theorem passes_of_plain {i gate position : Nat} (hplain : ¬p.IsGate t.address)
    (hi : p.code[i]? = some (.gate gate)) :
    Passes passed position gate ↔ (i, position) = t.key ∨ Passes passed position gate := by
  refine ⟨.inr, fun hk => hk.resolve_left ?_⟩
  intro hk
  rw [(Prod.mk.inj hk).1] at hi
  exact hplain ⟨gate, hi⟩

/-- Without a match, all that can be reached from the stack has been explored in the end. -/
theorem explored_of_explore {F : Finset (Nat × Nat)} {begun : Nat}
    (h : p.Explored text begun F stack passed) (hp : p.Orderly)
    (hfuel : Explored.stepsLeft p text F stack ≤ fuel)
    (he : p.explore fuel stack passed = (none, passed')) :
    ∃ F', F ⊆ F' ∧ p.Explored text begun F' [] passed' ∧
      ∀ t ∈ stack, t.key ∈ F' ∨ p.code[t.address]? = none := by
  induction fuel generalizing F stack passed with
  | zero =>
    have hempty : stack = [] := by
      have : stack.length = 0 := by
        simp only [Explored.stepsLeft] at hfuel
        omega
      exact List.length_eq_zero_iff.1 this
    subst hempty
    rw [explore_empty] at he
    cases he
    exact ⟨F, fun _ h => h, h, by simp⟩
  | succ fuel ih =>
    cases stack with
    | nil =>
      rw [explore_empty] at he
      cases he
      exact ⟨F, fun _ h => h, h, by simp⟩
    | cons t others =>
      have hpop : (t.key ∈ F ∨ p.code[t.address]? = none) →
          p.explore fuel others passed = (none, passed') →
          ∃ F', F ⊆ F' ∧ p.Explored text begun F' [] passed' ∧
            ∀ u ∈ t :: others, u.key ∈ F' ∨ p.code[u.address]? = none := by
        intro ht he
        obtain ⟨F', hsub, hF', hall⟩ := ih (h.pop ht)
          (by simp only [Explored.stepsLeft, List.length_cons] at hfuel ⊢; omega) he
        refine ⟨F', hsub, hF', ?_⟩
        intro u hu
        rcases List.mem_cons.1 hu with rfl | hu
        · exact ht.imp_left fun hF => hsub hF
        · exact hall u hu
      have hfire : ∀ {a passed₁}, p.code[t.address]? = some a → a ≠ .accept → t.key ∉ F →
          passed₁.size = passed.size →
          (∀ {i g position : Nat}, p.code[i]? = some (.gate g) →
            (Passes passed₁ position g ↔ (i, position) = t.key ∨ Passes passed position g)) →
          p.explore fuel (p.nexts t ++ others) passed₁ = (none, passed') →
          ∃ F', F ⊆ F' ∧ p.Explored text begun F' [] passed' ∧
            ∀ u ∈ t :: others, u.key ∈ F' ∨ p.code[u.address]? = none := by
        intro a passed₁ ha hacc hnew hsize hgates he
        have hcard := h.card_lt hnew ⟨(Array.getElem?_eq_some_iff.1 ha).1,
          (h.reads t List.mem_cons_self).position_le⟩
        have hlength := length_nexts_le (p := p) (t := t)
        obtain ⟨F', hsub, hF', hall⟩ := ih (h.fire hp ha hacc hnew hsize hgates)
          (by
            simp only [Explored.stepsLeft, List.length_cons, List.length_append,
              Finset.card_insert_of_notMem hnew] at hfuel ⊢
            omega) he
        refine ⟨F', fun x hx => hsub (Finset.mem_insert_of_mem hx), hF', ?_⟩
        intro u hu
        rcases List.mem_cons.1 hu with rfl | hu
        · exact .inl (hsub (Finset.mem_insert_self _ _))
        · exact hall u (List.mem_append_right _ hu)
      rcases explore_cases he with ⟨-, he⟩ | ⟨vs, passed₁, hv, he⟩
      · cases he
      · cases hv with
        | dead ha => exact hpop (.inr ha) he
        | blocked ha hpass => exact hpop (.inl ((h.gates ha).2 hpass)) he
        | gate ha hpass =>
          have hnew : t.key ∉ F := fun hF => hpass ((h.gates ha).1 hF)
          have hlt : t.position < passed.size := by
            have := (h.reads t List.mem_cons_self).position_le
            rw [h.size]
            omega
          exact hfire ha (by simp) hnew (by simp) (passes_of_gate hp ha hlt) he
        | step ha hacc hplain =>
          have hnew : t.key ∉ F := fun hF => hplain (h.fresh t List.mem_cons_self hF)
          exact hfire ha hacc hnew rfl (passes_of_plain hplain) he

/-- From places that are explored no path leads to one that accepts. -/
theorem Explored.not_accepts {F : Finset (Nat × Nat)} {begun : Nat}
    (h : p.Explored text begun F [] passed) (ht : t.At text)
    (hF : t.key ∈ F ∨ p.code[t.address]? = none) : ¬p.Accepts k t u := by
  intro ha
  induction ha with
  | done hacc =>
    rcases hF with hF | hdead
    · exact h.rejects _ hF hacc
    · rw [hacc] at hdead
      cases hdead
  | step hv _ ih =>
    apply ih (at_of_mem_nexts ht hv)
    rcases hF with hF | hdead
    · rcases h.closed _ ht hF _ hv with hF | hF | hdead
      · exact .inl hF
      · simp at hF
      · exact .inr hdead
    · simp [nexts, hdead] at hv

/-! The search from all positions -/

theorem accepts_of_searchFrom {pre rest : List Char} {position : Nat}
    (h : p.searchFrom fuel pre.length pre.getLast? rest passed = some (position, u)) :
    ∃ pre' rest', pre ++ rest = pre' ++ rest' ∧ position = pre'.length ∧
      ∃ k, p.Accepts k (Thread.start pre' rest') u := by
  induction rest generalizing pre passed with
  | nil =>
    unfold searchFrom at h
    split at h
    · rename_i v passed' he
      obtain ⟨t, ht, k, hk⟩ := accepts_of_explore he
      obtain rfl := List.mem_singleton.1 ht
      cases h
      exact ⟨pre, [], rfl, rfl, k, hk⟩
    · cases h
  | cons c rest ih =>
    unfold searchFrom at h
    split at h
    · rename_i v passed' he
      obtain ⟨t, ht, k, hk⟩ := accepts_of_explore he
      obtain rfl := List.mem_singleton.1 ht
      cases h
      exact ⟨pre, c :: rest, rfl, rfl, k, hk⟩
    · rename_i passed' he
      have hnext : p.searchFrom fuel (pre ++ [c]).length (pre ++ [c]).getLast? rest passed' =
          some (position, u) := by
        simpa using h
      simpa using ih hnext

theorem Explored.begin {F : Finset (Nat × Nat)} {pre rest : List Char}
    (h : p.Explored text pre.length F [] passed) (hp : p.Orderly) (ht : text = pre ++ rest) :
    p.Explored text (pre.length + 1) F [Thread.start pre rest] passed where
  size := h.size
  reads t ht := by
    obtain rfl := List.mem_singleton.1 ht
    exact Thread.at_start (by assumption)
  bounded := h.bounded
  rejects := h.rejects
  closed t ht hF v hv := by
    rcases h.closed t ht hF v hv with hv | hv | hv
    · exact .inl hv
    · simp at hv
    · exact .inr (.inr hv)
  gates := h.gates
  fresh t ht hF := by
    obtain rfl := List.mem_singleton.1 ht
    by_contra hg
    rcases h.origin _ (.inl hF) hg with ⟨-, hlt⟩ | ⟨u, hu, hF', v, hv, he⟩
    · exact Nat.lt_irrefl _ hlt
    · have hedge := edge_of_mem_nexts hv
      rw [(Prod.mk.inj he).1] at hedge
      exact hg (hp.start hedge)
  once := List.pairwise_singleton _ _
  origin x hx hg := by
    rcases hx with hx | hx
    · rcases h.origin x (.inl hx) hg with ⟨hz, hlt⟩ | hedge
      · exact .inl ⟨hz, Nat.lt_succ_of_lt hlt⟩
      · exact .inr hedge
    · obtain rfl := List.mem_singleton.1 hx
      exact .inl ⟨rfl, Nat.lt_succ_self _⟩

theorem not_accepts_of_searchFrom {F : Finset (Nat × Nat)} {pre rest more rest' : List Char}
    (h : p.Explored text pre.length F [] passed) (hp : p.Orderly) (ht : text = pre ++ rest)
    (hfuel : 1 + 2 * (p.size * (text.length + 1)) ≤ fuel)
    (he : p.searchFrom fuel pre.length pre.getLast? rest passed = none)
    (hr : rest = more ++ rest') : ¬p.Accepts k (Thread.start (pre ++ more) rest') u := by
  induction rest generalizing pre more passed F with
  | nil =>
    obtain ⟨rfl, rfl⟩ := List.nil_eq_append_iff.1 hr
    unfold searchFrom at he
    split at he
    · cases he
    · rename_i passed' hx
      obtain ⟨F', -, hF', hall⟩ := explored_of_explore (h.begin hp ht) hp
        (by simp only [Explored.stepsLeft, List.length_singleton]; omega) hx
      rw [List.append_nil]
      exact hF'.not_accepts (Thread.at_start ht) (hall _ List.mem_cons_self)
  | cons c rest ih =>
    unfold searchFrom at he
    split at he
    · cases he
    · rename_i passed' hx
      obtain ⟨F', -, hF', hall⟩ := explored_of_explore (h.begin hp ht) hp
        (by simp only [Explored.stepsLeft, List.length_singleton]; omega) hx
      cases more with
      | nil =>
        obtain rfl : rest' = c :: rest := hr.symm
        rw [List.append_nil]
        exact hF'.not_accepts (Thread.at_start ht) (hall _ List.mem_cons_self)
      | cons d more =>
        have hlen : (pre ++ [c]).length = pre.length + 1 := by simp
        have := ih (hlen ▸ hF') (by simp [ht]) (by simpa using he) (List.cons.inj hr).2
        rw [(List.cons.inj hr).1] at this
        simpa using this

theorem explored_empty : p.Explored text 0 ∅ [] (Array.replicate (text.length + 1) {}) where
  size := by simp
  reads t ht := by simp at ht
  bounded x hx := by simp at hx
  rejects x hx := by simp at hx
  closed t _ hF := by simp at hF
  gates _ := by
    simp only [Finset.notMem_empty, false_iff, Passes, Array.getD_eq_getD_getElem?]
    rw [Array.getElem?_replicate]
    split <;> simp [NatSet.contains]
  fresh t ht := by simp at ht
  once := List.Pairwise.nil
  origin x hx := by simp at hx

theorem accepts_of_search {position : Nat} (h : p.search text = some (position, u)) :
    ∃ pre rest, text = pre ++ rest ∧ position = pre.length ∧
      ∃ k, p.Accepts k (Thread.start pre rest) u := by
  have hs : p.searchFrom _ ([] : List Char).length [].getLast? text _ = some (position, u) := h
  exact accepts_of_searchFrom hs

theorem not_accepts_of_search {pre rest : List Char} (hp : p.Orderly) (h : p.search text = none)
    (ht : text = pre ++ rest) : ¬p.Accepts k (Thread.start pre rest) u := by
  have hfuel : 1 + 2 * (p.size * (text.length + 1)) ≤ 2 * (p.size + 1) * (text.length + 1) := by
    rw [Nat.mul_assoc, Nat.succ_mul p.size (text.length + 1)]
    omega
  have hs : p.searchFrom _ ([] : List Char).length [].getLast? text _ = none := h
  exact not_accepts_of_searchFrom explored_empty hp rfl hfuel hs ht

end Program

variable {n : Node} {text : List Char}

/-- A match that the search finds is one. -/
theorem Node.matches_of_search {position : Nat} {u : Thread}
    (h : n.program.search text = some (position, u)) :
    ∃ pre rest v, text = pre ++ rest ∧ position = pre.length ∧
      n.Matches (Thread.start pre rest) v ∧ u = v.goto n.length := by
  obtain ⟨pre, rest, ht, hpos, hk⟩ := Program.accepts_of_search h
  obtain ⟨v, hv, he⟩ := (Node.accepts_program rfl).1 hk
  exact ⟨pre, rest, v, ht, hpos, hv, he⟩

/-- The search finds a match if there is one anywhere in the text. -/
theorem Node.search_isSome_iff :
    (n.program.search text).isSome = true ↔
      ∃ pre rest v, text = pre ++ rest ∧ n.Matches (Thread.start pre rest) v := by
  constructor
  · intro h
    obtain ⟨⟨position, u⟩, hs⟩ := Option.isSome_iff_exists.1 h
    obtain ⟨pre, rest, v, ht, -, hv, -⟩ := Node.matches_of_search hs
    exact ⟨pre, rest, v, ht, hv⟩
  · rintro ⟨pre, rest, v, ht, hv⟩
    obtain ⟨k, hk⟩ := (Node.accepts_program rfl).2 ⟨v, hv, rfl⟩
    cases hs : n.program.search text with
    | some r => rfl
    | none => exact absurd hk (Program.not_accepts_of_search n.orderly_program hs ht)

end StepPhrase.Regex
