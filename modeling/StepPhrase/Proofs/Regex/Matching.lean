import StepPhrase.Regex.Search

/-! What the nodes of a regular expression match, said without programs. -/
namespace StepPhrase.Regex

open StepPhrase.Unicode

/-- So many rounds of a relation, one after the other. -/
def Rounds {α : Type} (R : α → α → Prop) : Nat → α → α → Prop
  | 0, a, b => a = b
  | k + 1, a, c => ∃ b, R a b ∧ Rounds R k b c

/-- The node matches from one thread to the other. Programs and preferences play no part in it.
A maximum below the minimum counts as the minimum. -/
def Node.Matches : Node → Thread → Thread → Prop
  | empty, t, u => t = u
  | literal s, t, u => t.readText s = some u
  | set _ s, t, u => t.readSet s = some u
  | look l, t, u => l.holds t.before t.rest = true ∧ t = u
  | cat a b, t, u => ∃ v, a.Matches t v ∧ b.Matches v u
  | alt a b, t, u => a.Matches t u ∨ b.Matches t u
  | group index a, t, u =>
    ∃ v, a.Matches (t.save (2 * index)) v ∧ v.save (2 * index + 1) = u
  | times min max _ a, t, u =>
    ∃ k, min ≤ k ∧ (∀ m, max = some m → k ≤ Nat.max min m) ∧ Rounds a.Matches k t u

/-- The nodes match one after the other. -/
def Chain : List Node → Thread → Thread → Prop
  | [], t, u => t = u
  | n :: rest, t, v => ∃ u, n.Matches t u ∧ Chain rest u v

/-- The indices of the groups in a node, from left to right. -/
def Node.groups : Node → List Nat
  | empty | literal _ | set .. | look _ => []
  | cat a b | alt a b => a.groups ++ b.groups
  | group index a => index :: a.groups
  | times _ _ _ a => a.groups

/-- The thread after it has read `w`, in front of `rest`, with further notes. -/
def Thread.after (t : Thread) (w rest : List Char) (notes : List (Nat × Nat)) : Thread :=
  { t with
    position := t.position + w.length
    before := w.getLast?.or t.before
    rest
    slots := notes ++ t.slots }

variable {α : Type} {R : α → α → Prop} {a b c : α} {j k : Nat}
  {t u v : Thread} {w x rest : List Char} {n : Node} {ns ms : List Node}

theorem rounds_one : Rounds R 1 a b ↔ R a b := by
  simp [Rounds]

theorem rounds_add : Rounds R (j + k) a c ↔ ∃ b, Rounds R j a b ∧ Rounds R k b c := by
  induction j generalizing a with
  | zero => simp [Rounds]
  | succ j ih =>
    rw [Nat.succ_add]
    constructor
    · rintro ⟨d, hd, h⟩
      obtain ⟨b, hb, hc⟩ := ih.1 h
      exact ⟨b, ⟨d, hd, hb⟩, hc⟩
    · rintro ⟨b, ⟨d, hd, hb⟩, hc⟩
      exact ⟨d, hd, ih.2 ⟨b, hb, hc⟩⟩

theorem rounds_succ_last : Rounds R (k + 1) a c ↔ ∃ b, Rounds R k a b ∧ R b c := by
  simp only [rounds_add, rounds_one]

theorem Thread.after_nil : t.after [] t.rest [] = t := by
  simp [Thread.after]

theorem Thread.after_after {r : List Char} {l m : List (Nat × Nat)} :
    (t.after w r l).after x rest m = t.after (w ++ x) rest (m ++ l) := by
  simp [Thread.after, List.getLast?_append, Nat.add_assoc, Option.or_assoc]

theorem Thread.readText_eq_some_iff :
    t.readText w = some u ↔ ∃ rest, t.rest = w ++ rest ∧ u = t.after w rest [] := by
  induction w generalizing t with
  | nil => simp [Thread.readText, Thread.after, eq_comm]
  | cons c w ih =>
    unfold Thread.readText
    split
    · simp [*]
    · rename_i d rest hr
      split
      · subst d
        rw [ih]
        simp only [hr, List.cons_append, List.cons.injEq, true_and]
        constructor
        · rintro ⟨r, rfl, rfl⟩
          refine ⟨r, rfl, ?_⟩
          cases hw : w.getLast? <;> simp [Thread.after, List.getLast?_cons, hw] <;> omega
        · rintro ⟨r, rfl, rfl⟩
          refine ⟨r, rfl, ?_⟩
          cases hw : w.getLast? <;> simp [Thread.after, List.getLast?_cons, hw] <;> omega
      · rename_i hne
        simp only [hr, List.cons_append, List.cons.injEq, reduceCtorEq, false_iff]
        rintro ⟨r, ⟨hd, -⟩, -⟩
        exact hne hd.symm

theorem Thread.readSet_eq_some_iff {s : CharSet} :
    t.readSet s = some u ↔
      ∃ c rest, t.rest = c :: rest ∧ s.contains c = true ∧ u = t.after [c] rest [] := by
  unfold Thread.readSet
  split
  · simp [*]
  · rename_i c rest hr
    simp only [hr, List.cons.injEq]
    split
    · rename_i hc
      constructor
      · intro h
        cases h
        exact ⟨c, rest, ⟨rfl, rfl⟩, hc, by simp [Thread.after]⟩
      · rintro ⟨d, r, ⟨rfl, rfl⟩, -, rfl⟩
        simp [Thread.after]
    · rename_i hc
      simp only [reduceCtorEq, false_iff]
      rintro ⟨d, r, ⟨rfl, rfl⟩, hd, -⟩
      exact hc hd

/-- Notes are only made in the two slots of a group of the list. -/
def NotesIn (groups : List Nat) (notes : List (Nat × Nat)) : Prop :=
  ∀ x ∈ notes, ∃ i ∈ groups, x.1 = 2 * i ∨ x.1 = 2 * i + 1

theorem notesIn_nil {groups : List Nat} : NotesIn groups [] := by
  simp [NotesIn]

theorem NotesIn.mono {groups more : List Nat} {notes : List (Nat × Nat)}
    (h : NotesIn groups notes) (hsub : groups ⊆ more) : NotesIn more notes := by
  intro x hx
  obtain ⟨i, hi, he⟩ := h x hx
  exact ⟨i, hsub hi, he⟩

theorem NotesIn.append {groups : List Nat} {l m : List (Nat × Nat)}
    (hl : NotesIn groups l) (hm : NotesIn groups m) : NotesIn groups (l ++ m) := by
  intro x hx
  rcases List.mem_append.1 hx with hx | hx
  · exact hl x hx
  · exact hm x hx

/-- A step of reading: some text is read, and notes are made in slots of the groups. -/
def Advances (groups : List Nat) (t u : Thread) : Prop :=
  ∃ w rest notes, t.rest = w ++ rest ∧ NotesIn groups notes ∧ u = t.after w rest notes

variable {groups more : List Nat}

theorem advances_refl : Advances groups t t :=
  ⟨[], t.rest, [], rfl, notesIn_nil, Thread.after_nil.symm⟩

theorem Advances.trans (h : Advances groups t u) (h' : Advances groups u v) :
    Advances groups t v := by
  obtain ⟨w, rest, l, hw, hl, rfl⟩ := h
  obtain ⟨x, r, m, hx, hm, rfl⟩ := h'
  simp only [Thread.after] at hx
  subst hx
  exact ⟨w ++ x, r, m ++ l, by simp [hw], hm.append hl, Thread.after_after⟩

theorem Advances.mono (h : Advances groups t u) (hsub : groups ⊆ more) : Advances more t u := by
  obtain ⟨w, rest, notes, hw, hn, he⟩ := h
  exact ⟨w, rest, notes, hw, hn.mono hsub, he⟩

theorem advances_save {i slot : Nat} (h : slot = 2 * i ∨ slot = 2 * i + 1) :
    Advances [i] t (t.save slot) := by
  refine ⟨[], t.rest, [(slot, t.position)], rfl, ?_, by simp [Thread.save, Thread.after]⟩
  simpa [NotesIn] using h

theorem advances_rounds {P : Thread → Thread → Prop}
    (h : ∀ t u, P t u → Advances groups t u) (hr : Rounds P k t u) : Advances groups t u := by
  induction k generalizing t with
  | zero => exact hr ▸ advances_refl
  | succ k ih =>
    obtain ⟨v, hv, hu⟩ := hr
    exact (h t v hv).trans (ih hu)

theorem Node.Matches.advances (h : n.Matches t u) : Advances n.groups t u := by
  induction n generalizing t u with
  | empty => exact h ▸ advances_refl
  | look l => exact h.2 ▸ advances_refl
  | literal s =>
    obtain ⟨rest, hr, rfl⟩ := Thread.readText_eq_some_iff.1 h
    exact ⟨s, rest, [], hr, notesIn_nil, rfl⟩
  | set b s =>
    obtain ⟨c, rest, hr, -, rfl⟩ := Thread.readSet_eq_some_iff.1 h
    exact ⟨[c], rest, [], hr, notesIn_nil, rfl⟩
  | cat a b iha ihb =>
    obtain ⟨v, ha, hb⟩ := h
    exact ((iha ha).mono (List.subset_append_left _ _)).trans
      ((ihb hb).mono (List.subset_append_right _ _))
  | alt a b iha ihb =>
    rcases h with h | h
    · exact (iha h).mono (List.subset_append_left _ _)
    · exact (ihb h).mono (List.subset_append_right _ _)
  | group i a ih =>
    obtain ⟨v, ha, rfl⟩ := h
    have hone : [i] ⊆ (group i a).groups := by simp [Node.groups]
    have hmid := (ih ha).mono (List.subset_cons_self i a.groups)
    exact ((advances_save (.inl rfl)).mono hone).trans
      (hmid.trans ((advances_save (.inr rfl)).mono hone))
  | times min max greedy a ih =>
    obtain ⟨k, -, -, hk⟩ := h
    exact advances_rounds (fun t u => ih) hk

end StepPhrase.Regex
