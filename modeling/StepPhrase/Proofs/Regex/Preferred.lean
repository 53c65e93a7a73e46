import StepPhrase.Proofs.Regex.Exploration

/-! The search takes the preferred way: the first one at each choice from which the program accepts.
Gates only shut out ways that fail. -/
namespace StepPhrase.Regex

/-- The first member with a property is where a list is cut in one way only. -/
theorem eq_of_append_cons_eq {α : Type} {P : α → Prop} {xs ys xs' ys' : List α} {a b : α}
    (h : xs ++ a :: ys = xs' ++ b :: ys') (hxs : ∀ x ∈ xs, ¬P x) (hxs' : ∀ x ∈ xs', ¬P x)
    (ha : P a) (hb : P b) : a = b := by
  rcases List.append_eq_append_iff.1 h with ⟨l, rfl, hl⟩ | ⟨l, rfl, hl⟩
  · cases l with
    | nil => exact (List.cons.inj hl).1
    | cons c l =>
      obtain rfl := (List.cons.inj hl).1
      exact absurd ha (hxs' a (by simp))
  · cases l with
    | nil => exact (List.cons.inj hl).1.symm
    | cons c l =>
      obtain rfl := (List.cons.inj hl).1
      exact absurd hb (hxs b (by simp))

namespace Program

variable {p : Program} {text : List Char} {t t' u u' v w : Thread} {k k' fuel : Nat}
  {failing others vs : List Thread} {passed passed' : Passed}

/-- No path from the thread leads to one that is accepted. -/
def Rejects (p : Program) (t : Thread) : Prop := ∀ k u, ¬p.Accepts k t u

/-- The path that takes at each step the first way to go on that does not fail. -/
inductive Prefers (p : Program) : Nat → Thread → Thread → Prop
  | done {t : Thread} (h : p.code[t.address]? = some .accept) : Prefers p 0 t t
  | step {k : Nat} {t v u : Thread} {failing more : List Thread}
    (hn : p.nexts t = failing ++ v :: more) (hf : ∀ x ∈ failing, p.Rejects x)
    (h : Prefers p k v u) : Prefers p (k + 1) t u

theorem Rejects.of_mem_nexts (h : p.Rejects t) (hv : v ∈ p.nexts t) : p.Rejects v :=
  fun k u ha => h (k + 1) u (.step hv ha)

theorem Prefers.accepts (h : p.Prefers k t u) : p.Accepts k t u := by
  induction h with
  | done h => exact .done h
  | step hn hf h ih =>
    refine .step ?_ ih
    rw [hn]
    exact List.mem_append_right _ List.mem_cons_self

theorem Prefers.not_rejects (h : p.Prefers k t u) : ¬p.Rejects t :=
  fun hr => hr k u h.accepts

theorem nexts_accept (h : p.code[t.address]? = some .accept) : p.nexts t = [] := by
  simp [nexts, h]

theorem Prefers.unique (h : p.Prefers k t u) (h' : p.Prefers k' t u') : k = k' ∧ u = u' := by
  induction h generalizing k' u' with
  | done h =>
    cases h' with
    | done h' => exact ⟨rfl, rfl⟩
    | step hn hf h' => simp [nexts_accept h] at hn
  | step hn hf h ih =>
    cases h' with
    | done h' => simp [nexts_accept h'] at hn
    | step hn' hf' h' =>
      obtain rfl := eq_of_append_cons_eq (P := fun x => ¬p.Rejects x) (hn.symm.trans hn')
        (fun x hx => not_not_intro (hf x hx)) (fun x hx => not_not_intro (hf' x hx))
        h.not_rejects h'.not_rejects
      obtain ⟨rfl, rfl⟩ := ih h'
      exact ⟨rfl, rfl⟩

/-! Both notions depend on where a thread is only. -/

theorem Accepts.of_key (h : p.Accepts k t u) (ht : t.At text) (ht' : t'.At text)
    (hk : t.key = t'.key) : ∃ u', p.Accepts k t' u' := by
  induction h generalizing t' with
  | done h => exact ⟨t', .done ((Prod.mk.inj hk).1 ▸ h)⟩
  | @step k t v u hv h ih =>
    have hkeys := key_nexts (p := p) ht ht' hk
    obtain ⟨v', hv', hkey⟩ : ∃ v' ∈ p.nexts t', v'.key = v.key := by
      have hmem : v.key ∈ (p.nexts t').map Thread.key := hkeys ▸ List.mem_map_of_mem hv
      exact List.mem_map.1 hmem
    obtain ⟨u', hu'⟩ := ih (at_of_mem_nexts ht hv) (at_of_mem_nexts ht' hv') hkey.symm
    exact ⟨u', .step hv' hu'⟩

theorem Rejects.of_key (h : p.Rejects t) (ht : t.At text) (ht' : t'.At text)
    (hk : t.key = t'.key) : p.Rejects t' := by
  intro k u ha
  obtain ⟨u', hu'⟩ := ha.of_key ht' ht hk.symm
  exact h k u' hu'

theorem Prefers.of_key (h : p.Prefers k t u) (ht : t.At text) (ht' : t'.At text)
    (hk : t.key = t'.key) : ∃ u', p.Prefers k t' u' := by
  induction h generalizing t' with
  | done h => exact ⟨t', .done ((Prod.mk.inj hk).1 ▸ h)⟩
  | @step k t v u failing more hn hf h ih =>
    have hkeys := key_nexts (p := p) ht ht' hk
    rw [hn, List.map_append, List.map_cons] at hkeys
    obtain ⟨failing', rest, hn', hfailing, hrest⟩ := List.map_eq_append_iff.1 hkeys.symm
    obtain ⟨v', more', rfl, hv', -⟩ := List.map_eq_cons_iff.1 hrest
    have hmem : ∀ {x}, x ∈ failing ++ v :: more → x.At text := fun hx =>
      at_of_mem_nexts ht (hn ▸ hx)
    have hmem' : ∀ {x}, x ∈ failing' ++ v' :: more' → x.At text := fun hx =>
      at_of_mem_nexts ht' (hn' ▸ hx)
    obtain ⟨u', hu'⟩ := ih (hmem (by simp)) (hmem' (by simp)) hv'.symm
    refine ⟨u', .step hn' (fun x hx => ?_) hu'⟩
    have hx' : x.key ∈ failing.map Thread.key := hfailing ▸ List.mem_map_of_mem hx
    obtain ⟨y, hy, hkey⟩ := List.mem_map.1 hx'
    exact (hf y hy).of_key (hmem (by simp [hy])) (hmem' (by simp [hx])) hkey

/-- The gates that were passed, at a time when `k` steps are left of the preferred path: threads
there fail, or lie on that path and have more steps to go. -/
def Behind (p : Program) (text : List Char) (k : Nat) (passed : Passed) : Prop :=
  ∀ {i g position : Nat}, p.code[i]? = some (.gate g) → Passes passed position g →
    ∀ t : Thread, t.At text → t.key = (i, position) →
      p.Rejects t ∨ ∃ k' u, k < k' ∧ p.Prefers k' t u

theorem Behind.mono (h : p.Behind text k passed) (hle : k' ≤ k) : p.Behind text k' passed := by
  intro i g position hi hpass t ht hk
  rcases h hi hpass t ht hk with hr | ⟨k'', u, hlt, hu⟩
  · exact .inl hr
  · exact .inr ⟨k'', u, Nat.lt_of_le_of_lt hle hlt, hu⟩

theorem Behind.visit (h : p.Behind text k passed) (hp : p.Orderly)
    (hv : p.Visits t passed vs passed') (hlt : t.position < passed.size)
    (hnew : ∀ x : Thread, x.At text → x.key = t.key →
      p.Rejects x ∨ ∃ k' u, k < k' ∧ p.Prefers k' x u) : p.Behind text k passed' := by
  cases hv with
  | dead | blocked | step => exact h
  | gate hc =>
    intro i g' position hi hpass x hx hk
    rcases (passes_of_gate hp hc hlt hi).1 hpass with heq | hpass
    · exact hnew x hx (hk.trans heq)
    · exact h hi hpass x hx hk

/-- The preferred path finds no gate shut: it would have come there before, or fail. -/
theorem Prefers.eq_nexts_of_visits (h : p.Prefers k t u) (hbehind : p.Behind text k passed)
    (ht : t.At text) (hv : p.Visits t passed vs passed') : vs = p.nexts t := by
  cases hv with
  | dead hc => simp [nexts, hc]
  | blocked hc hpass =>
    rcases hbehind hc hpass t ht rfl with hr | ⟨k', u', hlt, hu'⟩
    · exact absurd hr h.not_rejects
    · have := (h.unique hu').1
      omega
  | gate | step => rfl

theorem position_lt_size (ht : t.At text) (hsize : passed.size = text.length + 1) :
    t.position < passed.size := by
  have := ht.position_le
  omega

/-- Where the preferred path of a thread exists and all threads before it fail, the exploration
finds what that path leads to. -/
theorem eq_of_explore (hp : p.Orderly) (h : p.Prefers k t u) (ht : t.At text)
    (hfailing : ∀ x ∈ failing, x.At text ∧ p.Rejects x) (hsize : passed.size = text.length + 1)
    (hbehind : p.Behind text k passed)
    (he : p.explore fuel (failing ++ t :: others) passed = (some w, passed')) : w = u := by
  induction fuel generalizing failing t others passed k with
  | zero => cases he
  | succ fuel ih =>
    cases failing with
    | nil =>
      rcases explore_cases he with ⟨hacc, he⟩ | ⟨vs, passed₁, hv, he⟩
      · cases h with
        | done =>
          cases he
          rfl
        | step hn => simp [nexts_accept hacc] at hn
      · have hnexts := h.eq_nexts_of_visits hbehind ht hv
        cases h with
        | done hacc => exact absurd hacc hv.not_accept
        | @step k t v u failing more hn hf h =>
          have hprefers : p.Prefers (k + 1) t u := .step hn hf h
          have hat : ∀ {x}, x ∈ failing ++ v :: more → x.At text := fun hx =>
            at_of_mem_nexts ht (hn ▸ hx)
          have hbehind : p.Behind text k passed := hbehind.mono (Nat.le_succ k)
          have hbehind₁ : p.Behind text k passed₁ := by
            apply hbehind.visit hp hv (position_lt_size ht hsize)
            intro x hx hk
            obtain ⟨u', hu'⟩ := hprefers.of_key ht hx hk.symm
            exact .inr ⟨k + 1, u', Nat.lt_succ_self k, hu'⟩
          rw [hnexts, hn, List.append_assoc, List.cons_append] at he
          exact ih h (hat (by simp)) (fun x hx => ⟨hat (List.mem_append_left _ hx), hf x hx⟩)
            (hv.size_eq.trans hsize) hbehind₁ he
    | cons x failing =>
      obtain ⟨⟨hx, hr⟩, hfailing⟩ := List.forall_mem_cons.1 hfailing
      rw [List.cons_append] at he
      rcases explore_cases he with ⟨hacc, -⟩ | ⟨vs, passed₁, hv, he⟩
      · exact absurd (.done hacc) (hr 0 x)
      · rw [← List.append_assoc] at he
        refine ih h ht (fun y hy => ?_) (hv.size_eq.trans hsize) ?_ he
        · rcases List.mem_append.1 hy with hy | hy
          · have hy := hv.subset_nexts hy
            exact ⟨at_of_mem_nexts hx hy, hr.of_mem_nexts hy⟩
          · exact hfailing y hy
        · apply hbehind.visit hp hv (position_lt_size hx hsize)
          intro y hy hk
          exact .inl (hr.of_key hx hy hk.symm)

/-- The search takes the preferred path from the first position. -/
theorem search_of_prefers (hp : p.Orderly) (h : p.Prefers k (.start [] text) u) :
    p.search text = some (0, u) := by
  have hat : (Thread.start [] text).At text := Thread.at_start rfl
  have hempty : p.Explored text ([] : List Char).length ∅ []
    (Array.replicate (text.length + 1) {}) := explored_empty
  have hbehind : p.Behind text k (Array.replicate (text.length + 1) {}) := by
    intro i g position hi hpass
    exact absurd ((hempty.gates hi).2 hpass) (Finset.notMem_empty _)
  have hstart : p.search text = p.searchFrom (2 * (p.size + 1) * (text.length + 1)) 0 none text
    (Array.replicate (text.length + 1) {}) := rfl
  have hfuel : 1 + 2 * (p.size * (text.length + 1)) ≤ 2 * (p.size + 1) * (text.length + 1) := by
    rw [Nat.mul_assoc, Nat.succ_mul p.size (text.length + 1)]
    omega
  rw [hstart]
  unfold searchFrom
  split
  · rename_i w passed' he
    have he : p.explore _ ([] ++ Thread.start [] text :: []) _ = (some w, passed') := he
    rw [eq_of_explore hp h hat (by simp) (by simp) hbehind he]
  · rename_i passed' he
    have hbegin : p.Explored text (([] : List Char).length + 1) ∅ [.start [] text]
      (Array.replicate (text.length + 1) {}) := hempty.begin hp rfl
    obtain ⟨F', -, hF', hall⟩ := explored_of_explore hbegin hp
      (by simp only [Explored.stepsLeft, List.length_singleton, Finset.card_empty]; omega) he
    exact absurd h.accepts (hF'.not_accepts hat (hall _ List.mem_cons_self))

end Program

end StepPhrase.Regex
