/-! Results of computations that can fail. -/
namespace StepPhrase

variable {ε ε' α β : Type} {x : Except ε α} {f : α → β} {g : α → Except ε β} {b : β} {e : ε}

theorem map_eq_ok_iff : x.map f = .ok b ↔ ∃ a, x = .ok a ∧ f a = b := by
  cases x with
  | error e => simp [Except.map]
  | ok a => simp [Except.map]

theorem exists_map_eq_ok_iff : (∃ b, x.map f = .ok b) ↔ ∃ a, x = .ok a := by
  simp only [map_eq_ok_iff]
  exact ⟨fun ⟨_, a, ha, _⟩ => ⟨a, ha⟩, fun ⟨a, ha⟩ => ⟨f a, a, ha, rfl⟩⟩

theorem map_eq_error_iff : x.map f = .error e ↔ x = .error e := by
  cases x with
  | error e => simp [Except.map]
  | ok a => simp [Except.map]

theorem map_map {γ : Type} {h : β → γ} : (x.map f).map h = x.map (h ∘ f) := by
  cases x with
  | error e => rfl
  | ok a => rfl

theorem bind_eq_ok_iff : x.bind g = .ok b ↔ ∃ a, x = .ok a ∧ g a = .ok b := by
  cases x with
  | error e => simp [Except.bind]
  | ok a => simp [Except.bind]

theorem bind_eq_error_iff :
    x.bind g = .error e ↔ x = .error e ∨ ∃ a, x = .ok a ∧ g a = .error e := by
  cases x with
  | error e => simp [Except.bind]
  | ok a => simp [Except.bind]

theorem mapError_eq_ok_iff {h : ε → ε'} {a : α} : x.mapError h = .ok a ↔ x = .ok a := by
  cases x with
  | error e =>
    constructor
    · intro h
      cases h
    · intro h
      cases h
  | ok a' =>
    constructor
    · intro h
      cases h
      rfl
    · intro h
      cases h
      rfl

theorem mapError_eq_error_iff {h : ε → ε'} {e' : ε'} :
    x.mapError h = .error e' ↔ ∃ e, x = .error e ∧ h e = e' := by
  constructor
  · intro hx
    cases x with
    | error e =>
      cases hx
      exact ⟨e, rfl, rfl⟩
    | ok a => cases hx
  · rintro ⟨e, rfl, rfl⟩
    rfl

theorem mapError_mapError {ε'' : Type} {h : ε → ε'} {h' : ε' → ε''} :
    (x.mapError h).mapError h' = x.mapError (h' ∘ h) := by
  cases x with
  | error e => rfl
  | ok a => rfl

theorem map_mapError {h : ε → ε'} : (x.mapError h).map f = (x.map f).mapError h := by
  cases x with
  | error e => rfl
  | ok a => rfl

theorem exists_eq_error_iff : (∃ e, x = .error e) ↔ ¬∃ a, x = .ok a := by
  cases x with
  | error e => simp
  | ok a => simp

/-- A result that is computed and checked exists. -/
theorem exists_ok_of_any {P : α → Prop} [DecidablePred P]
    (h : x.toOption.any (fun a => decide (P a)) = true) : ∃ a, x = .ok a ∧ P a := by
  cases x with
  | error e => cases h
  | ok a => exact ⟨a, rfl, of_decide_eq_true h⟩

section Lists

variable {l : List α} {bs : List β} {a : α}

theorem mapM_cons_except : (a :: l).mapM g = (g a).bind fun b => (l.mapM g).map (b :: ·) := by
  rw [List.mapM_cons]
  cases g a with
  | error e => rfl
  | ok b => rfl

/-- All members succeed, each with the result in its place. -/
theorem mapM_eq_ok_iff : l.mapM g = .ok bs ↔
    bs.length = l.length ∧ ∀ (i : Nat) a, l[i]? = some a → ∃ b, bs[i]? = some b ∧ g a = .ok b := by
  induction l generalizing bs with
  | nil =>
    constructor
    · intro h
      cases h
      simp
    · rintro ⟨hlength, -⟩
      rw [List.length_eq_zero_iff.1 hlength]
      rfl
  | cons a l ih =>
    rw [mapM_cons_except, bind_eq_ok_iff]
    constructor
    · rintro ⟨b, hb, h⟩
      obtain ⟨rest, hrest, rfl⟩ := map_eq_ok_iff.1 h
      obtain ⟨hlength, hall⟩ := ih.1 hrest
      refine ⟨congrArg Nat.succ hlength, fun i a' hi => ?_⟩
      cases i with
      | zero =>
        cases hi
        exact ⟨b, rfl, hb⟩
      | succ i => exact hall i a' hi
    · rintro ⟨hlength, hall⟩
      obtain ⟨b, rest, rfl⟩ := List.exists_cons_of_length_eq_add_one hlength
      obtain ⟨b', hb', hb⟩ := hall 0 a rfl
      cases hb'
      have hrest : l.mapM g = .ok rest :=
        ih.2 ⟨Nat.succ.inj hlength, fun i a' hi => hall (i + 1) a' hi⟩
      exact ⟨b, hb, map_eq_ok_iff.2 ⟨rest, hrest, rfl⟩⟩

theorem exists_mapM_eq_ok_iff : (∃ bs, l.mapM g = .ok bs) ↔ ∀ a ∈ l, ∃ b, g a = .ok b := by
  induction l with
  | nil => exact iff_of_true ⟨[], rfl⟩ (by simp)
  | cons a l ih =>
    rw [mapM_cons_except, List.forall_mem_cons, ← ih]
    simp only [bind_eq_ok_iff, map_eq_ok_iff]
    constructor
    · rintro ⟨bs, b, hb, rest, hrest, -⟩
      exact ⟨⟨b, hb⟩, rest, hrest⟩
    · rintro ⟨⟨b, hb⟩, rest, hrest⟩
      exact ⟨b :: rest, b, hb, rest, hrest, rfl⟩

/-- The fault is that of the first member that fails. -/
theorem mapM_eq_error_iff : l.mapM g = .error e ↔
    ∃ (i : Nat) (a : α), l[i]? = some a ∧ g a = .error e ∧
      ∀ j < i, ∀ a', l[j]? = some a' → ∃ b, g a' = .ok b := by
  induction l with
  | nil =>
    constructor
    · intro h
      cases h
    · rintro ⟨i, a, hi, -⟩
      simp at hi
  | cons a l ih =>
    rw [mapM_cons_except, bind_eq_error_iff]
    simp only [map_eq_error_iff, ih]
    constructor
    · rintro (ha | ⟨b, hb, i, a', hi, ha', hbefore⟩)
      · exact ⟨0, a, rfl, ha, by simp⟩
      · refine ⟨i + 1, a', hi, ha', fun j hj a'' hj' => ?_⟩
        cases j with
        | zero =>
          cases hj'
          exact ⟨b, hb⟩
        | succ j => exact hbefore j (Nat.lt_of_succ_lt_succ hj) a'' hj'
    · rintro ⟨i, a', hi, ha', hbefore⟩
      cases i with
      | zero =>
        cases hi
        exact .inl ha'
      | succ i =>
        obtain ⟨b, hb⟩ := hbefore 0 (Nat.succ_pos i) a rfl
        exact .inr ⟨b, hb, i, a', hi, ha', fun j hj => hbefore (j + 1) (Nat.succ_lt_succ hj)⟩

end Lists

end StepPhrase
