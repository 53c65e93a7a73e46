import StepPhrase.Proofs.Regex.Code

/-! Where the ways through a program meet: only at gates, each of which has its own number. -/
namespace StepPhrase.Regex

namespace Instruction

/-- Where the instruction at the address goes on. -/
def targets (address : Nat) : Instruction → List Nat
  | jump target => [target]
  | split first other => [first, other]
  | accept => []
  | text _ | set _ | look _ | save _ | gate _ => [address + 1]

end Instruction

namespace Program

/-- One way leads from `i` to `j`. -/
def Edge (p : Program) (i j : Nat) : Prop := ∃ a, p.code[i]? = some a ∧ j ∈ a.targets i

/-- Ways from the addresses `s` up to `e` meet at gates only. But for gates, they lead to the
addresses after `s` up to `e`. -/
structure Separate (p : Program) (s e : Nat) : Prop where
  target : ∀ {i j}, s ≤ i → i < e → p.Edge i j → (s < j ∧ j ≤ e) ∨ p.IsGate j
  unique : ∀ {i i' j}, s ≤ i → i < e → s ≤ i' → i' < e → p.Edge i j → p.Edge i' j →
    i = i' ∨ p.IsGate j
  apart : ∀ {i j}, s ≤ i → i < e → p.code[i]? = some (.split j j) → p.IsGate j

variable {p q : Program} {s m e l n i j : Nat} {a : Instruction} {greedy : Bool}
  {B : Nat → Prop} {body : Program → Program}

theorem edge_iff (h : p.code[i]? = some a) : p.Edge i j ↔ j ∈ a.targets i := by
  simp [Edge, h]

theorem separate_refl : p.Separate s s :=
  ⟨fun h h' => by omega, fun h h' => by omega, fun h h' => by omega⟩

theorem Separate.trans (h : p.Separate s m) (h' : p.Separate m e) (hsm : s ≤ m) (hme : m ≤ e) :
    p.Separate s e := by
  constructor
  · intro i j hs he hij
    by_cases hi : i < m
    · rcases h.target hs hi hij with ⟨hj, hj'⟩ | hg
      · exact .inl ⟨hj, by omega⟩
      · exact .inr hg
    · rcases h'.target (by omega) he hij with ⟨hj, hj'⟩ | hg
      · exact .inl ⟨by omega, hj'⟩
      · exact .inr hg
  · intro i i' j hs he hs' he' hij hij'
    by_cases hi : i < m <;> by_cases hi' : i' < m
    · exact h.unique hs hi hs' hi' hij hij'
    · rcases h.target hs hi hij with hj | hg
      · rcases h'.target (by omega) he' hij' with hj' | hg
        · omega
        · exact .inr hg
      · exact .inr hg
    · rcases h.target hs' hi' hij' with hj | hg
      · rcases h'.target (by omega) he hij with hj' | hg
        · omega
        · exact .inr hg
      · exact .inr hg
    · exact h'.unique (by omega) he (by omega) he' hij hij'
  · intro i j hs he hij
    by_cases hi : i < m
    · exact h.apart hs hi hij
    · exact h'.apart (by omega) he hij

/-- An instruction that goes on at the next one or at gates. -/
theorem separate_one (h : p.code[s]? = some a) (ht : ∀ j ∈ a.targets s, j = s + 1 ∨ p.IsGate j)
    (ha : ∀ j, a = .split j j → p.IsGate j) : p.Separate s (s + 1) := by
  constructor
  · intro i j hs he hij
    obtain rfl : i = s := by omega
    rcases ht j ((edge_iff h).1 hij) with rfl | hg
    · exact .inl ⟨by omega, by omega⟩
    · exact .inr hg
  · intro i i' j hs he hs' he' hij hij'
    exact .inl (by omega)
  · intro i j hs he hij
    obtain rfl : i = s := by omega
    rw [h] at hij
    exact ha j (Option.some.inj hij)

theorem separate_gate (h : p.IsGate s) : p.Separate s (s + 1) := by
  obtain ⟨g, hg⟩ := h
  exact separate_one hg (by simp [Instruction.targets]) (by simp)

/-- A choice between the next instruction and a gate. -/
theorem separate_choice (h : p.ChoiceAt s greedy m n) (hm : m = s + 1 ∨ p.IsGate m)
    (hn : n = s + 1 ∨ p.IsGate n) (hone : p.IsGate m ∨ p.IsGate n) : p.Separate s (s + 1) := by
  refine separate_one h ?_ ?_
  · intro j hj
    cases greedy <;> simp only [Instruction.targets, Bool.false_eq_true, if_false, if_true,
      List.mem_cons, List.not_mem_nil, or_false] at hj <;> rcases hj with rfl | rfl <;> assumption
  · intro j hj
    cases greedy <;> simp only [Bool.false_eq_true, if_false, if_true,
      Instruction.split.injEq] at hj <;> rcases hj with ⟨rfl, rfl⟩ <;> rcases hone with h | h <;>
      exact h

/-- A choice between the next instructions, which end with a jump to a gate, and those after the
jump. -/
theorem separate_fork {target : Nat} (h : p.ChoiceAt s greedy (s + 1) (m + 1))
    (hbody : p.Separate (s + 1) m) (hsm : s + 1 ≤ m) (hjump : p.code[m]? = some (.jump target))
    (hg : p.IsGate target) : p.Separate s (m + 1) := by
  have hs : ∀ {j}, p.Edge s j → j = s + 1 ∨ j = m + 1 := by
    intro j hj
    have := (edge_iff h).1 hj
    cases greedy <;> simpa [Instruction.targets, or_comm] using this
  have hm : ∀ {j}, p.Edge m j → p.IsGate j := by
    intro j hj
    have := (edge_iff hjump).1 hj
    simp only [Instruction.targets, List.mem_singleton] at this
    exact this ▸ hg
  have hb : ∀ {i j}, s < i → i < m → p.Edge i j → (s + 1 < j ∧ j ≤ m) ∨ p.IsGate j :=
    fun hi hi' => hbody.target hi hi'
  have hcases : ∀ {i}, s ≤ i → i < m + 1 → i = s ∨ (s < i ∧ i < m) ∨ i = m := by
    intro i hi hi'
    omega
  constructor
  · intro i j hi hi' hij
    rcases hcases hi hi' with rfl | ⟨hi, hi'⟩ | rfl
    · rcases hs hij with rfl | rfl <;> exact .inl ⟨by omega, by omega⟩
    · rcases hb hi hi' hij with hj | hg
      · exact .inl ⟨by omega, by omega⟩
      · exact .inr hg
    · exact .inr (hm hij)
  · intro i i' j hi he hi' he' hij hij'
    rcases hcases hi he with rfl | ⟨hi, he⟩ | rfl
    · rcases hcases hi' he' with rfl | ⟨hi', he'⟩ | rfl
      · exact .inl rfl
      · rcases hb hi' he' hij' with hj | hg
        · rcases hs hij with rfl | rfl <;> omega
        · exact .inr hg
      · exact .inr (hm hij')
    · rcases hcases hi' he' with rfl | ⟨hi', he'⟩ | rfl
      · rcases hb hi he hij with hj | hg
        · rcases hs hij' with rfl | rfl <;> omega
        · exact .inr hg
      · exact hbody.unique hi he hi' he' hij hij'
      · exact .inr (hm hij')
    · exact .inr (hm hij)
  · intro i j hi hi' hij
    rcases hcases hi hi' with rfl | ⟨hi, hi'⟩ | rfl
    · have : (if greedy = true then Instruction.split (i + 1) (m + 1)
          else .split (m + 1) (i + 1)) = .split j j := Option.some.inj (h.symm.trans hij)
      cases greedy <;> simp at this <;> omega
    · exact hbody.apart hi hi' hij
    · rw [hjump] at hij
      cases hij

section Loops

variable (hB : ∀ s, B s → p.Separate s (s + l))

include hB

theorem CopiesAt.separate (h : CopiesAt B l n s) : p.Separate s (s + n * l) := by
  induction n with
  | zero =>
    rw [Nat.zero_mul]
    exact separate_refl
  | succ n ih =>
    have hfirst := ih fun i hi => h i (Nat.lt_succ_of_lt hi)
    have hlast := hB _ (h n (Nat.lt_succ_self n))
    rw [Nat.succ_mul, ← Nat.add_assoc]
    exact hfirst.trans hlast (by omega) (by omega)

theorem PlusAt.separate (h : p.PlusAt B l greedy s) : p.Separate s (s + l + 2) := by
  obtain ⟨hgate, hbody, hchoice⟩ := h
  have hlast := separate_choice hchoice (.inr hgate) (.inl (by omega)) (.inl hgate)
  rw [show s + 1 + l + 1 = s + l + 2 by omega] at hlast
  exact ((separate_gate hgate).trans (hB _ hbody) (by omega) (by omega)).trans hlast
    (by omega) (by omega)

theorem StarAt.separate (h : p.StarAt B l greedy s) : p.Separate s (s + l + 3) := by
  obtain ⟨hgate, hchoice, hbody, hjump⟩ := h
  have hloop := hB _ hbody
  rw [show s + 2 + l = s + l + 2 by omega] at hloop
  exact (separate_gate hgate).trans (separate_fork hchoice hloop (by omega) hjump hgate)
    (by omega) (by omega)

theorem OptionalPlusAt.separate (h : p.OptionalPlusAt B l greedy s) :
    p.Separate s (s + l + 4) := by
  obtain ⟨hchoice, hplus, hgate⟩ := h
  have hfirst := separate_choice hchoice (.inl rfl) (.inr hgate) (.inr hgate)
  have hloop := hplus.separate hB
  rw [show s + 1 + l + 2 = s + l + 3 by omega] at hloop
  exact (hfirst.trans hloop (by omega) (by omega)).trans (separate_gate hgate)
    (by omega) (by omega)

theorem UpToAt.separate (h : p.UpToAt B l n greedy s) :
    p.Separate s (s + n * (l + 1) + 1) := by
  obtain ⟨hrounds, hgate⟩ := h
  have hround : ∀ k, (∃ i < n, k = s + i * (l + 1)) → p.Separate k (k + (l + 1)) := by
    rintro _ ⟨i, hi, rfl⟩
    obtain ⟨hchoice, hbody⟩ := hrounds i hi
    have hfirst := separate_choice hchoice (.inl rfl) (.inr hgate) (.inr hgate)
    have hboth := hfirst.trans (hB _ hbody) (by omega) (by omega)
    rwa [Nat.add_assoc, Nat.add_comm 1 l] at hboth
  have hall : p.Separate s (s + n * (l + 1)) :=
    CopiesAt.separate hround fun i hi => ⟨i, hi, rfl⟩
  exact hall.trans (separate_gate hgate) (by omega) (by omega)

end Loops

end Program

open Program

variable {p : Program} {n : Node} {s : Nat}

namespace Node

variable {a : Node} {min max n : Nat} {greedy : Bool}
  (hB : ∀ s, a.StandsAt p s → p.Separate s (s + a.length))

include hB

theorem separate_times_some (h : (times min (some max) greedy a).StandsAt p s) :
    p.Separate s (s + (times min (some max) greedy a).length) := by
  have hmin := CopiesAt.separate hB h.1
  rw [Node.length]
  split
  · rename_i hlt
    have hboth := hmin.trans ((h.2 hlt).separate hB) (by omega) (by omega)
    rwa [Nat.add_assoc, Nat.add_assoc] at hboth
  · rwa [Nat.add_zero]

theorem separate_times_zero (h : (times 0 none greedy a).StandsAt p s) :
    p.Separate s (s + (times 0 none greedy a).length) := by
  rw [Node.StandsAt] at h
  rw [Node.length]
  split at h
  · rename_i hm
    rw [if_pos hm]
    exact h.separate hB
  · rename_i hm
    rw [if_neg hm]
    exact h.separate hB

theorem separate_times_succ (h : (times (n + 1) none greedy a).StandsAt p s) :
    p.Separate s (s + (times (n + 1) none greedy a).length) := by
  have hboth := (CopiesAt.separate hB h.1).trans (h.2.separate hB) (by omega) (by omega)
  rwa [show s + n * a.length + a.length + 2 = s + (times (n + 1) none greedy a).length by
    rw [Node.length, Nat.succ_mul]; omega] at hboth

end Node

theorem Node.StandsAt.separate (h : n.StandsAt p s) : p.Separate s (s + n.length) := by
  induction n generalizing s with
  | empty => exact separate_refl
  | literal cs => exact separate_one h (by simp [Instruction.targets]) (by simp)
  | set b cs => exact separate_one h (by simp [Instruction.targets]) (by simp)
  | look l => exact separate_one h (by simp [Instruction.targets]) (by simp)
  | cat a b iha ihb =>
    have := (iha h.1).trans (ihb h.2) (by omega) (by omega)
    rwa [Nat.add_assoc, Nat.add_comm a.length] at this
  | alt a b iha ihb =>
    obtain ⟨hsplit, ha, hjump, hb, hgate⟩ := h
    have hfirst := iha ha
    rw [Nat.add_right_comm] at hfirst
    have hchoice : p.ChoiceAt s true (s + 1) (s + a.length + 2) := hsplit
    have hfork := separate_fork hchoice hfirst (by omega) hjump hgate
    have hboth := (hfork.trans (ihb hb) (by omega) (by omega)).trans (separate_gate hgate)
      (by omega) (by omega)
    rwa [show s + a.length + 2 + b.length + 1 = s + (alt a b).length by
      rw [Node.length]; omega] at hboth
  | group i a ih =>
    obtain ⟨hopen, ha, hclose⟩ := h
    have hbody := ih ha
    rw [Nat.add_right_comm] at hbody
    have hfirst := separate_one hopen (by simp [Instruction.targets]) (by simp)
    have hlast := separate_one hclose (by simp [Instruction.targets]) (by simp)
    have hboth := (hfirst.trans hbody (by omega) (by omega)).trans hlast (by omega) (by omega)
    exact hboth
  | times min max greedy a ih =>
    have hB : ∀ s, a.StandsAt p s → p.Separate s (s + a.length) := fun s => ih
    cases max with
    | some max => exact Node.separate_times_some hB h
    | none =>
      cases min with
      | zero => exact Node.separate_times_zero hB h
      | succ n => exact Node.separate_times_succ hB h

/-! Numbers of gates -/

namespace Program

/-- The numbers of gates are below their count, and no two gates have the same. -/
structure Numbered (p : Program) : Prop where
  below : ∀ {i g : Nat}, p.code[i]? = some (.gate g) → g < p.gates
  once : ∀ {i j g : Nat}, p.code[i]? = some (.gate g) → p.code[j]? = some (.gate g) → i = j

theorem numbered_empty : Numbered {} :=
  ⟨fun h => by simp at h, fun h => by simp at h⟩

theorem Numbered.push {p : Program} {a : Instruction} (h : p.Numbered)
    (ha : ∀ g, a ≠ .gate g) : (p.push a).Numbered := by
  have hold : ∀ {i g : Nat}, (p.push a).code[i]? = some (.gate g) → p.code[i]? = some (.gate g) := by
    intro i g hi
    simp only [Program.push, Array.getElem?_push] at hi
    split at hi
    · exact absurd (Option.some.inj hi) (ha g)
    · exact hi
  exact ⟨fun hi => h.below (hold hi), fun hi hj => h.once (hold hi) (hold hj)⟩

theorem Numbered.pushGate {p : Program} (h : p.Numbered) : p.pushGate.Numbered := by
  have hold : ∀ {i g : Nat}, p.pushGate.code[i]? = some (.gate g) →
      (i = p.size ∧ g = p.gates) ∨ p.code[i]? = some (.gate g) := by
    intro i g hi
    simp only [Program.pushGate, Program.push, Array.getElem?_push] at hi
    split at hi
    · simp only [Option.some.injEq, Instruction.gate.injEq] at hi
      exact .inl ⟨by assumption, hi.symm⟩
    · exact .inr hi
  constructor
  · intro i g hi
    rcases hold hi with ⟨-, rfl⟩ | hi
    · exact Nat.lt_succ_self _
    · exact Nat.lt_succ_of_lt (h.below hi)
  · intro i j g hi hj
    rcases hold hi with ⟨rfl, rfl⟩ | hi <;> rcases hold hj with ⟨rfl, hg⟩ | hj
    · rfl
    · exact absurd (h.below hj) (Nat.lt_irrefl _)
    · exact absurd (hg ▸ h.below hi) (Nat.lt_irrefl _)
    · exact h.once hi hj

theorem Numbered.pushChoice {p : Program} {greedy : Bool} {m n : Nat} (h : p.Numbered) :
    (p.pushChoice greedy m n).Numbered :=
  h.push fun g => by split <;> simp

theorem Numbered.repeat {body : Program → Program} {p : Program} {n : Nat} (h : p.Numbered)
    (hbody : ∀ {q : Program}, q.Numbered → (body q).Numbered) :
    (n.repeat body p).Numbered := by
  induction n with
  | zero => exact h
  | succ n ih => exact hbody ih

end Program

theorem Node.numbered_emit {q : Program} (h : q.Numbered) : (n.emit q).Numbered := by
  induction n generalizing q with
  | empty => exact h
  | literal cs => exact h.push (by simp)
  | set b cs => exact h.push (by simp)
  | look l => exact h.push (by simp)
  | cat a b iha ihb => exact ihb (iha h)
  | alt a b iha ihb => exact (ihb ((iha (h.push (by simp))).push (by simp))).pushGate
  | group i a ih => exact (ih (h.push (by simp))).push (by simp)
  | times min max greedy a ih =>
    cases max with
    | some max =>
      rw [Node.emit]
      have hmin : (min.repeat a.emit q).Numbered := h.repeat ih
      split
      · exact (hmin.repeat fun h => ih h.pushChoice).pushGate
      · exact hmin
    | none =>
      cases min with
      | zero =>
        rw [Node.emit]
        split
        · exact (ih h.pushChoice.pushGate).pushChoice.pushGate
        · exact (ih h.pushGate.pushChoice).push (by simp)
      | succ n => exact (ih (h.repeat ih).pushGate).pushChoice

/-- What the search relies on: each way to an address that is no gate is the only one, none leads
back to the start but to a gate, and gates are told apart by their numbers. -/
structure Program.Orderly (p : Program) : Prop where
  unique : ∀ {i i' j}, p.Edge i j → p.Edge i' j → ¬p.IsGate j → i = i'
  apart : ∀ {i j : Nat}, p.code[i]? = some (.split j j) → p.IsGate j
  start : ∀ {i}, p.Edge i 0 → p.IsGate 0
  once : ∀ {i j g : Nat}, p.code[i]? = some (.gate g) → p.code[j]? = some (.gate g) → i = j

theorem Node.orderly_program (n : Node) : n.program.Orderly := by
  have hemits := emits_emit n n.program
  have hsize : (n.emit {}).size = n.length := by
    rw [hemits.size]
    exact Nat.zero_add _
  have hbody := (hemits.stands {} continues_push).separate
  have haccept : n.program.code[n.length]? = some .accept := by
    rw [← hsize]
    exact Continues.at_size (q := n.emit {}) List.prefix_rfl
  rw [show Program.size {} = 0 from rfl, Nat.zero_add] at hbody
  have hlast := separate_one haccept (by simp [Instruction.targets]) (by simp)
  have hall := hbody.trans hlast (Nat.zero_le _) (Nat.le_succ _)
  have hlt : ∀ {i : Nat} {a}, n.program.code[i]? = some a → i < n.length + 1 := by
    intro i a hi
    have := (Array.getElem?_eq_some_iff.1 hi).1
    simpa [Node.program, Program.push, ← hsize, Program.size] using this
  constructor
  · rintro i i' j ⟨a, ha, hj⟩ ⟨a', ha', hj'⟩ hg
    exact (hall.unique (Nat.zero_le _) (hlt ha) (Nat.zero_le _) (hlt ha') ⟨a, ha, hj⟩
      ⟨a', ha', hj'⟩).resolve_right hg
  · intro i j hi
    exact hall.apart (Nat.zero_le _) (hlt hi) hi
  · rintro i ⟨a, ha, hj⟩
    exact (hall.target (Nat.zero_le _) (hlt ha) ⟨a, ha, hj⟩).resolve_left fun h => by omega
  · exact ((n.numbered_emit numbered_empty).push (by simp)).once

end StepPhrase.Regex
