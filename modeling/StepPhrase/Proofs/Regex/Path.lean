import StepPhrase.Proofs.Regex.Code
import StepPhrase.Proofs.Regex.Matching

/-! Paths through programs, with gates open. They run through the code of a node where the node
matches. -/
namespace StepPhrase.Regex

namespace Program

/-- The ways to go on, the preferred one first. -/
def nexts (p : Program) (t : Thread) : List Thread :=
  match p.code[t.address]? with
  | none | some .accept => []
  | some (.text cs) => (t.readText cs).toList.map .next
  | some (.set s) => (t.readSet s).toList.map .next
  | some (.look l) => if l.holds t.before t.rest then [t.next] else []
  | some (.save slot) => [(t.save slot).next]
  | some (.jump target) => [t.goto target]
  | some (.split first other) => [t.goto first, t.goto other]
  | some (.gate _) => [t.next]

/-- A path of so many steps leads from a thread to one that is accepted. -/
inductive Accepts (p : Program) : Nat → Thread → Thread → Prop
  | done {t : Thread} (h : p.code[t.address]? = some .accept) : Accepts p 0 t t
  | step {k : Nat} {t v u : Thread} (hv : v ∈ p.nexts t) (h : Accepts p k v u) :
    Accepts p (k + 1) t u

/-- Between the addresses `s` and `e`, accepting paths do what the relation says. -/
structure Runs (p : Program) (s e : Nat) (R : Thread → Thread → Prop) : Prop where
  sound : ∀ {k t u}, p.Accepts k (t.goto s) u →
    ∃ v j, j ≤ k ∧ R t v ∧ p.Accepts j (v.goto e) u
  complete : ∀ {k t v u}, R t v → p.Accepts k (v.goto e) u → ∃ j, p.Accepts j (t.goto s) u

variable {p : Program} {s m e l n k : Nat} {t u v : Thread} {R S : Thread → Thread → Prop}
  {B : Nat → Prop} {greedy : Bool} {i : Instruction}

/-- The first step of an accepting path, at an instruction that does not accept. -/
theorem Accepts.cases_step (h : p.Accepts k t u) (hi : p.code[t.address]? = some i)
    (hne : i ≠ .accept) : ∃ v j, k = j + 1 ∧ v ∈ p.nexts t ∧ p.Accepts j v u := by
  cases h with
  | done h => simp_all
  | step hv h => exact ⟨_, _, rfl, hv, h⟩

theorem nexts_gate (h : p.IsGate t.address) : p.nexts t = [t.next] := by
  obtain ⟨g, hg⟩ := h
  simp [nexts, hg]

theorem nexts_jump (h : p.code[t.address]? = some (.jump n)) : p.nexts t = [t.goto n] := by
  simp [nexts, h]

theorem mem_nexts_choice (h : p.ChoiceAt t.address greedy m n) :
    v ∈ p.nexts t ↔ v = t.goto m ∨ v = t.goto n := by
  unfold ChoiceAt at h
  cases greedy <;> simp [nexts, h, or_comm]

theorem Runs.refl : p.Runs s s Eq :=
  ⟨fun h => ⟨_, _, Nat.le_refl _, rfl, h⟩, fun he h => ⟨_, he ▸ h⟩⟩

theorem Runs.trans (h : p.Runs s m R) (h' : p.Runs m e S) :
    p.Runs s e (fun t u => ∃ v, R t v ∧ S v u) := by
  constructor
  · intro k t u ha
    obtain ⟨v, j, hj, hv, ha⟩ := h.sound ha
    obtain ⟨w, i, hi, hw, ha⟩ := h'.sound ha
    exact ⟨w, i, Nat.le_trans hi hj, ⟨v, hv, hw⟩, ha⟩
  · rintro k t w u ⟨v, hv, hw⟩ ha
    obtain ⟨j, hj⟩ := h'.complete hw ha
    exact h.complete hv hj

theorem Runs.congr (h : p.Runs s e R) (hiff : ∀ t u, R t u ↔ S t u) : p.Runs s e S := by
  have : R = S := by
    funext t u
    exact propext (hiff t u)
  exact this ▸ h

/-- What a single instruction does, if all its ways go on to the next one. -/
theorem runs_instruction (hi : p.code[s]? = some i) (hne : i ≠ .accept)
    (hn : ∀ t v, v ∈ p.nexts (t.goto s) ↔ ∃ w, R t w ∧ v = w.goto (s + 1)) :
    p.Runs s (s + 1) R := by
  constructor
  · intro k t u ha
    obtain ⟨v, j, rfl, hv, ha⟩ := ha.cases_step hi hne
    obtain ⟨w, hw, rfl⟩ := (hn t v).1 hv
    exact ⟨w, j, Nat.le_succ j, hw, ha⟩
  · intro k t v u hv ha
    exact ⟨k + 1, .step ((hn t _).2 ⟨v, hv, rfl⟩) ha⟩

theorem runs_text {cs : List Char} (h : p.code[s]? = some (.text cs)) :
    p.Runs s (s + 1) (fun t u => t.readText cs = some u) := by
  apply runs_instruction h (by simp)
  intro t v
  simp only [nexts, Thread.goto, h, List.mem_map, Option.mem_toList,
    Thread.readText_eq_some_iff]
  constructor
  · rintro ⟨_, ⟨rest, hr, rfl⟩, rfl⟩
    exact ⟨_, ⟨rest, hr, rfl⟩, rfl⟩
  · rintro ⟨_, ⟨rest, hr, rfl⟩, rfl⟩
    exact ⟨_, ⟨rest, hr, rfl⟩, rfl⟩

theorem runs_set {c : Unicode.CharSet} (h : p.code[s]? = some (.set c)) :
    p.Runs s (s + 1) (fun t u => t.readSet c = some u) := by
  apply runs_instruction h (by simp)
  intro t v
  simp only [nexts, Thread.goto, h, List.mem_map, Option.mem_toList,
    Thread.readSet_eq_some_iff]
  constructor
  · rintro ⟨_, ⟨d, rest, hr, hd, rfl⟩, rfl⟩
    exact ⟨_, ⟨d, rest, hr, hd, rfl⟩, rfl⟩
  · rintro ⟨_, ⟨d, rest, hr, hd, rfl⟩, rfl⟩
    exact ⟨_, ⟨d, rest, hr, hd, rfl⟩, rfl⟩

theorem runs_look {a : Look} (h : p.code[s]? = some (.look a)) :
    p.Runs s (s + 1) (fun t u => a.holds t.before t.rest = true ∧ t = u) := by
  apply runs_instruction h (by simp)
  intro t v
  simp only [nexts, Thread.goto, h, Thread.next]
  by_cases ha : a.holds t.before t.rest = true <;> simp [ha]

theorem runs_save {slot : Nat} (h : p.code[s]? = some (.save slot)) :
    p.Runs s (s + 1) (fun t u => t.save slot = u) := by
  apply runs_instruction h (by simp)
  intro t v
  simp [nexts, Thread.goto, Thread.next, Thread.save, h]

theorem runs_gate (h : p.IsGate s) : p.Runs s (s + 1) Eq := by
  have ⟨g, hg⟩ := h
  apply runs_instruction hg (by simp)
  intro t v
  rw [nexts_gate (t := t.goto s) h]
  simp [Thread.goto, Thread.next]

theorem runs_jump (h : p.code[s]? = some (.jump e)) : p.Runs s e Eq := by
  have hn : ∀ t : Thread, p.nexts (t.goto s) = [t.goto e] := fun t => by
    simpa [Thread.goto] using nexts_jump (t := t.goto s) h
  constructor
  · intro k t u ha
    obtain ⟨v, j, rfl, hv, ha⟩ := ha.cases_step h (by simp)
    rw [hn, List.mem_singleton] at hv
    exact ⟨t, j, Nat.le_succ j, rfl, hv ▸ ha⟩
  · rintro k t _ u rfl ha
    exact ⟨k + 1, .step (by simp [hn]) ha⟩

/-- A choice leads to one of its two addresses, and has taken a step. -/
theorem Accepts.choice (h : p.ChoiceAt s greedy m n) (ha : p.Accepts k (t.goto s) u) :
    ∃ j < k, p.Accepts j (t.goto m) u ∨ p.Accepts j (t.goto n) u := by
  obtain ⟨v, j, rfl, hv, ha⟩ := ha.cases_step h (by split <;> simp)
  refine ⟨j, Nat.lt_succ_self j, ?_⟩
  rcases (mem_nexts_choice (t := t.goto s) h).1 hv with rfl | rfl
  · exact .inl ha
  · exact .inr ha

theorem accepts_choice (h : p.ChoiceAt s greedy m n)
    (ha : p.Accepts k (t.goto m) u ∨ p.Accepts k (t.goto n) u) :
    p.Accepts (k + 1) (t.goto s) u := by
  rcases ha with ha | ha
  · exact .step ((mem_nexts_choice (t := t.goto s) h).2 (.inl rfl)) ha
  · exact .step ((mem_nexts_choice (t := t.goto s) h).2 (.inr rfl)) ha

/-- Two ways from a choice that meet again. -/
theorem runs_choice (h : p.ChoiceAt s greedy m n) (hm : p.Runs m e R) (hn : p.Runs n e S) :
    p.Runs s e (fun t u => R t u ∨ S t u) := by
  constructor
  · intro k t u ha
    obtain ⟨j, hj, ha | ha⟩ := ha.choice h
    · obtain ⟨v, i, hi, hv, ha⟩ := hm.sound ha
      exact ⟨v, i, by omega, .inl hv, ha⟩
    · obtain ⟨v, i, hi, hv, ha⟩ := hn.sound ha
      exact ⟨v, i, by omega, .inr hv, ha⟩
  · rintro k t v u (hv | hv) ha
    · obtain ⟨j, hj⟩ := hm.complete hv ha
      exact ⟨j + 1, accepts_choice h (.inl hj)⟩
    · obtain ⟨j, hj⟩ := hn.complete hv ha
      exact ⟨j + 1, accepts_choice h (.inr hj)⟩

section Loops

variable (hB : ∀ s, B s → p.Runs s (s + l) R)

include hB

theorem runs_copies (h : CopiesAt B l n s) : p.Runs s (s + n * l) (Rounds R n) := by
  induction n with
  | zero =>
    rw [Nat.zero_mul]
    exact Runs.refl
  | succ n ih =>
    have hfirst := ih fun i hi => h i (Nat.lt_succ_of_lt hi)
    have hlast := hB _ (h n (Nat.lt_succ_self n))
    rw [Nat.succ_mul, ← Nat.add_assoc]
    exact (hfirst.trans hlast).congr fun t u => rounds_succ_last.symm

/-- From the gate of a loop, through the body, to the choice at its end. -/
theorem PlusAt.round (h : p.PlusAt B l greedy s) : p.Runs s (s + 1 + l) R :=
  ((runs_gate h.1).trans (hB _ h.2.1)).congr fun t u => by simp

theorem runs_plus (h : p.PlusAt B l greedy s) :
    p.Runs s (s + l + 2) (fun t u => ∃ k, 1 ≤ k ∧ Rounds R k t u) := by
  have hround := h.round hB
  obtain ⟨-, -, hchoice⟩ := h
  constructor
  · intro k
    induction k using Nat.strongRecOn with
    | ind k ih =>
      intro t u ha
      obtain ⟨v, j, hj, hv, ha⟩ := hround.sound ha
      obtain ⟨i, hi, ha | ha⟩ := ha.choice hchoice
      · obtain ⟨w, i', hi', ⟨r, -, hr⟩, ha⟩ := ih i (by omega) ha
        exact ⟨w, i', by omega, ⟨r + 1, by omega, v, hv, hr⟩, ha⟩
      · exact ⟨v, i, by omega, ⟨1, Nat.le_refl 1, rounds_one.2 hv⟩, ha⟩
  · rintro k t u x ⟨r, hr, hrounds⟩ ha
    obtain ⟨r, rfl⟩ : ∃ r', r = r' + 1 := ⟨r - 1, by omega⟩
    clear hr
    induction r generalizing t with
    | zero => exact hround.complete (rounds_one.1 hrounds) (accepts_choice hchoice (.inr ha))
    | succ r ih =>
      obtain ⟨v, hv, hrest⟩ := hrounds
      obtain ⟨j, hj⟩ := ih hrest
      exact hround.complete hv (accepts_choice hchoice (.inl hj))

theorem runs_star (h : p.StarAt B l greedy s) :
    p.Runs s (s + l + 3) (fun t u => ∃ k, Rounds R k t u) := by
  obtain ⟨hgate, hchoice, hbody, hjump⟩ := h
  have hback : p.Runs (s + 2) s R :=
    ((hB _ hbody).trans (runs_jump (by rwa [Nat.add_right_comm]))).congr fun t u => by simp
  constructor
  · intro k
    induction k using Nat.strongRecOn with
    | ind k ih =>
      intro t u ha
      obtain ⟨v, j, hj, rfl, ha⟩ := (runs_gate hgate).sound ha
      obtain ⟨i, hi, ha | ha⟩ := ha.choice hchoice
      · obtain ⟨v, i', hi', hv, ha⟩ := hback.sound ha
        obtain ⟨w, i'', hi'', ⟨r, hr⟩, ha⟩ := ih i' (by omega) ha
        exact ⟨w, i'', by omega, ⟨r + 1, v, hv, hr⟩, ha⟩
      · exact ⟨t, i, by omega, ⟨0, rfl⟩, ha⟩
  · rintro k t u x ⟨r, hr⟩ ha
    induction r generalizing t with
    | zero =>
      cases hr
      exact (runs_gate hgate).complete rfl (accepts_choice hchoice (.inr ha))
    | succ r ih =>
      obtain ⟨v, hv, hrest⟩ := hr
      obtain ⟨j, hj⟩ := ih hrest
      obtain ⟨i, hi⟩ := hback.complete hv hj
      exact (runs_gate hgate).complete rfl (accepts_choice hchoice (.inl hi))

theorem runs_optionalPlus (h : p.OptionalPlusAt B l greedy s) :
    p.Runs s (s + l + 4) (fun t u => ∃ k, Rounds R k t u) := by
  obtain ⟨hchoice, hplus, hgate⟩ := h
  have hloop := runs_plus hB hplus
  rw [show s + 1 + l + 2 = s + l + 3 by omega] at hloop
  apply ((runs_choice hchoice hloop Runs.refl).trans (runs_gate hgate)).congr
  intro t u
  simp only [exists_eq_right]
  constructor
  · rintro (⟨k, -, hk⟩ | rfl)
    · exact ⟨k, hk⟩
    · exact ⟨0, rfl⟩
  · rintro ⟨k, hk⟩
    cases k with
    | zero => exact .inr hk
    | succ k => exact .inl ⟨k + 1, by omega, hk⟩

theorem runs_upTo (h : p.UpToAt B l n greedy s) :
    p.Runs s (s + n * (l + 1) + 1) (fun t u => ∃ k, k ≤ n ∧ Rounds R k t u) := by
  obtain ⟨hrounds, hgate⟩ := h
  -- With `d` rounds left, by induction on `d`.
  have hleft : ∀ d, d ≤ n → p.Runs (s + (n - d) * (l + 1)) (s + n * (l + 1))
      (fun t u => ∃ k, k ≤ d ∧ Rounds R k t u) := by
    intro d
    induction d with
    | zero =>
      intro _
      refine Runs.refl.congr fun t u => ⟨fun h => ⟨0, Nat.le_refl 0, h⟩, ?_⟩
      rintro ⟨k, hk, hr⟩
      obtain rfl : k = 0 := by omega
      exact hr
    | succ d ih =>
      intro hd
      obtain ⟨hchoice, hbody⟩ := hrounds (n - (d + 1)) (by omega)
      have hnext : s + (n - (d + 1)) * (l + 1) + 1 + l = s + (n - d) * (l + 1) := by
        rw [show n - d = n - (d + 1) + 1 by omega, Nat.succ_mul]
        omega
      have hround := hB _ hbody
      rw [hnext] at hround
      apply (runs_choice hchoice (hround.trans (ih (by omega))) Runs.refl).congr
      intro t u
      constructor
      · rintro (⟨v, hv, k, hk, hr⟩ | rfl)
        · exact ⟨k + 1, by omega, v, hv, hr⟩
        · exact ⟨0, by omega, rfl⟩
      · rintro ⟨k, hk, hr⟩
        cases k with
        | zero => exact .inr hr
        | succ k =>
          obtain ⟨v, hv, hr⟩ := hr
          exact .inl ⟨v, hv, k, by omega, hr⟩
  have hall := hleft n (Nat.le_refl n)
  simp only [Nat.sub_self, Nat.zero_mul, Nat.add_zero] at hall
  exact (hall.trans (runs_gate hgate)).congr fun t u => by simp

end Loops

end Program

open Program

variable {p : Program} {n : Node} {s : Nat}

namespace Node

variable {a : Node} {min max n : Nat} {greedy : Bool}
  (hB : ∀ s, a.StandsAt p s → p.Runs s (s + a.length) a.Matches)

include hB

theorem runs_times_some (h : (times min (some max) greedy a).StandsAt p s) :
    p.Runs s (s + (times min (some max) greedy a).length)
      (times min (some max) greedy a).Matches := by
  obtain ⟨hcopies, hmore⟩ := h
  have hmin := runs_copies hB hcopies
  by_cases hlt : min < max
  · have hboth := hmin.trans (runs_upTo hB (hmore hlt))
    rw [Node.length, if_pos hlt, ← Nat.add_assoc, ← Nat.add_assoc]
    apply hboth.congr
    intro t u
    simp only [Node.Matches, Option.some.injEq, forall_eq']
    rw [Nat.max_eq_max, Nat.max_eq_right (Nat.le_of_lt hlt)]
    constructor
    · rintro ⟨v, hv, k, hk, hr⟩
      exact ⟨min + k, by omega, by omega, rounds_add.2 ⟨v, hv, hr⟩⟩
    · rintro ⟨k, hk, hle, hr⟩
      rw [show k = min + (k - min) by omega, rounds_add] at hr
      obtain ⟨v, hv, hr⟩ := hr
      exact ⟨v, hv, k - min, by omega, hr⟩
  · rw [Node.length, if_neg hlt, Nat.add_zero]
    apply hmin.congr
    intro t u
    simp only [Node.Matches, Option.some.injEq, forall_eq']
    rw [Nat.max_eq_max, Nat.max_eq_left (Nat.le_of_not_lt hlt)]
    constructor
    · intro hr
      exact ⟨min, Nat.le_refl _, Nat.le_refl _, hr⟩
    · rintro ⟨k, hk, hle, hr⟩
      obtain rfl : k = min := by omega
      exact hr

theorem runs_times_zero (h : (times 0 none greedy a).StandsAt p s) :
    p.Runs s (s + (times 0 none greedy a).length) (times 0 none greedy a).Matches := by
  have hany : ∀ t u, (∃ k, Rounds a.Matches k t u) ↔ (times 0 none greedy a).Matches t u := by
    simp [Node.Matches]
  rw [Node.StandsAt] at h
  rw [Node.length]
  split at h
  · rename_i hm
    rw [if_pos hm]
    exact (runs_optionalPlus hB h).congr hany
  · rename_i hm
    rw [if_neg hm]
    exact (runs_star hB h).congr hany

theorem runs_times_succ (h : (times (n + 1) none greedy a).StandsAt p s) :
    p.Runs s (s + (times (n + 1) none greedy a).length) (times (n + 1) none greedy a).Matches := by
  have hboth := (runs_copies hB h.1).trans (runs_plus hB h.2)
  rw [show s + n * a.length + a.length + 2 = s + (times (n + 1) none greedy a).length by
    rw [Node.length, Nat.succ_mul]; omega] at hboth
  apply hboth.congr
  intro t u
  simp only [Node.Matches, reduceCtorEq, false_implies, implies_true, true_and]
  constructor
  · rintro ⟨v, hv, k, hk, hr⟩
    exact ⟨n + k, by omega, rounds_add.2 ⟨v, hv, hr⟩⟩
  · rintro ⟨k, hk, hr⟩
    rw [show k = n + (k - n) by omega, rounds_add] at hr
    obtain ⟨v, hv, hr⟩ := hr
    exact ⟨v, hv, k - n, by omega, hr⟩

end Node

/-- Through its code, a node does what it matches. -/
theorem Node.StandsAt.runs (h : n.StandsAt p s) : p.Runs s (s + n.length) n.Matches := by
  induction n generalizing s with
  | empty => exact Runs.refl
  | literal cs => exact runs_text h
  | set b cs => exact runs_set h
  | look l => exact runs_look h
  | cat a b iha ihb =>
    have := (iha h.1).trans (ihb h.2)
    rwa [Nat.add_assoc, Nat.add_comm a.length] at this
  | alt a b iha ihb =>
    obtain ⟨hsplit, ha, hjump, hb, hgate⟩ := h
    have hchoice : p.ChoiceAt s true (s + 1) (s + a.length + 2) := hsplit
    have hleft := (iha ha).trans (runs_jump (by rwa [Nat.add_right_comm]))
    have hboth := (runs_choice hchoice hleft (ihb hb)).trans (runs_gate hgate)
    rw [show s + a.length + 2 + b.length + 1 = s + (alt a b).length by
      rw [Node.length]; omega] at hboth
    exact hboth.congr fun t u => by simp [Node.Matches]
  | group i a ih =>
    obtain ⟨hopen, ha, hclose⟩ := h
    have hbody := ih ha
    rw [Nat.add_right_comm] at hbody
    exact (((runs_save hopen).trans hbody).trans (runs_save hclose)).congr fun t u => by
      simp [Node.Matches]
  | times min max greedy a ih =>
    have hB : ∀ s, a.StandsAt p s → p.Runs s (s + a.length) a.Matches := fun s => ih
    cases max with
    | some max => exact Node.runs_times_some hB h
    | none =>
      cases min with
      | zero => exact Node.runs_times_zero hB h
      | succ n => exact Node.runs_times_succ hB h

/-- Accepting paths from the first instruction are the matches of the node. -/
theorem Node.accepts_program {u : Thread} {t : Thread} (h : t.address = 0) :
    (∃ k, n.program.Accepts k t u) ↔ ∃ v, n.Matches t v ∧ u = v.goto n.length := by
  have hc : n.program.Continues (n.emit {}) := continues_push
  have hruns := ((emits_emit n n.program).stands {} hc).runs
  have hsize : (n.emit {}).size = n.length := by
    rw [(emits_emit n n.program).size]
    exact Nat.zero_add _
  have haccept : n.program.code[n.length]? = some .accept := by
    rw [← hsize]
    exact Continues.at_size (q := n.emit {}) List.prefix_rfl
  have ht : t.goto 0 = t := by rw [← h]; rfl
  have hz : Program.size {} = 0 := rfl
  rw [hz, Nat.zero_add] at hruns
  constructor
  · rintro ⟨k, ha⟩
    rw [← ht] at ha
    obtain ⟨v, j, -, hv, ha⟩ := hruns.sound ha
    refine ⟨v, hv, ?_⟩
    cases ha with
    | done => rfl
    | step hn =>
      simp [nexts, Thread.goto, haccept] at hn
  · rintro ⟨v, hv, rfl⟩
    obtain ⟨j, hj⟩ := hruns.complete hv (.done haccept)
    exact ⟨j, ht ▸ hj⟩

end StepPhrase.Regex
