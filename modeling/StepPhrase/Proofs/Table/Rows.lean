import StepPhrase.Table.Basic

/-! Which rows make a table, and which row is at fault where they do not. -/
namespace StepPhrase

variable {rows : List (List String)} {names row : List String} {t t' : DataTable}
  {e : TableError} {i expected actual : Nat}

/-- Row `i`, of `actual` cells, is the first that is not as long as row 0, of `expected` cells. -/
structure FirstUneven (rows : List (List String)) (i expected actual : Nat) : Prop where
  first : rows[0]?.map List.length = some expected
  found : rows[i]?.map List.length = some actual
  differs : actual ≠ expected
  before : ∀ j < i, ∀ row, rows[j]? = some row → row.length = expected

theorem rectangular_iff :
    (∃ n, ∀ row ∈ rows, row.length = n) ↔ ∀ row ∈ rows, row.length = widthOf rows := by
  constructor
  · rintro ⟨n, h⟩ row hrow
    cases rows with
    | nil => cases hrow
    | cons first rest => exact (h row hrow).trans (h first List.mem_cons_self).symm
  · intro h
    exact ⟨_, h⟩

theorem FirstUneven.widthOf_eq (h : FirstUneven rows i expected actual) :
    widthOf rows = expected := by
  rw [widthOf, List.head?_eq_getElem?, h.first]
  rfl

/-- The first member with the property is found together with its position. -/
theorem find?_zipIdx_eq_some_iff {α : Type} {l : List α} {p : α → Bool} {a : α} :
    l.zipIdx.find? (fun m => p m.1) = some (a, i) ↔
      l[i]? = some a ∧ p a = true ∧ ∀ j < i, ∀ b, l[j]? = some b → p b = false := by
  rw [List.find?_eq_some_iff_getElem]
  constructor
  · rintro ⟨ha, k, hk, heq, hbefore⟩
    rw [List.getElem_zipIdx, Nat.zero_add] at heq
    cases heq
    rw [List.length_zipIdx] at hk
    refine ⟨List.getElem?_eq_getElem hk, ha, ?_⟩
    intro j hj b hb
    obtain ⟨hlt, rfl⟩ := List.getElem?_eq_some_iff.1 hb
    simpa using hbefore j hj
  · rintro ⟨hi, ha, hbefore⟩
    obtain ⟨hlt, rfl⟩ := List.getElem?_eq_some_iff.1 hi
    refine ⟨ha, i, by simpa using hlt, by simp, ?_⟩
    intro j hj
    simpa using hbefore j hj _ (List.getElem?_eq_getElem (Nat.lt_trans hj hlt))

theorem unevenRow?_eq_some_iff : unevenRow? rows = some e ↔
    ∃ i expected actual, FirstUneven rows i expected actual ∧
      e = .unevenRow (i + 1) expected actual := by
  have hfind {row i} := find?_zipIdx_eq_some_iff (l := rows) (a := row) (i := i)
    (p := fun row : List String => row.length != widthOf rows)
  simp only [bne_iff_ne, bne_eq_false_iff_eq] at hfind
  rw [unevenRow?, Option.map_eq_some_iff]
  constructor
  · rintro ⟨⟨row, i⟩, hrow, rfl⟩
    obtain ⟨hi, hne, hbefore⟩ := hfind.1 hrow
    refine ⟨i, _, _, ⟨?_, by rw [hi]; rfl, hne, hbefore⟩, rfl⟩
    cases rows with
    | nil => cases hi
    | cons first rest => rfl
  · rintro ⟨i, expected, actual, h, rfl⟩
    obtain ⟨row, hi, rfl⟩ := Option.map_eq_some_iff.1 h.found
    have hwidth := h.widthOf_eq
    subst hwidth
    exact ⟨(row, i), hfind.2 ⟨hi, h.differs, h.before⟩, rfl⟩

theorem exists_unevenRow?_iff :
    (∃ e, unevenRow? rows = some e) ↔ ¬∃ n, ∀ row ∈ rows, row.length = n := by
  rw [rectangular_iff, ← unevenRow?_eq_none_iff, ← ne_eq, Option.ne_none_iff_exists']

namespace DataTable

theorem ofRows_of_rectangular (h : ∀ row ∈ rows, row.length = widthOf rows) :
    ofRows rows = .ok ⟨rows, h, none⟩ := by
  unfold ofRows
  split
  · rename_i e he
    rw [unevenRow?_eq_none_iff.2 h] at he
    cases he
  · rfl

theorem ofRows_cells : ofRows t.cells = .ok ⟨t.cells, t.length_eq, none⟩ :=
  ofRows_of_rectangular t.length_eq

theorem ofRows_eq_ok_iff : ofRows rows = .ok t ↔ ∃ h, t = ⟨rows, h, none⟩ := by
  constructor
  · intro h
    unfold ofRows at h
    split at h
    · cases h
    · cases h
      exact ⟨_, rfl⟩
  · rintro ⟨h, rfl⟩
    exact ofRows_of_rectangular h

theorem ofRows_eq_error_iff : ofRows rows = .error e ↔ unevenRow? rows = some e := by
  unfold ofRows
  split
  · rename_i e' he
    rw [he, Option.some.injEq, Except.error.injEq]
  · rename_i hnone
    simp [hnone]

/-- The rows below the first are as long as it. -/
theorem length_of_cells (h : t.cells = names :: rows) :
    ∀ row ∈ rows, row.length = names.length := by
  intro row hrow
  have hmem : row ∈ t.cells := by
    rw [h]
    exact List.mem_cons_of_mem names hrow
  have hlength := t.length_eq row hmem
  rw [h] at hlength
  exact hlength

theorem cells_oriented {transposed : Bool} (h : t.cells = t'.cells) :
    (t.oriented transposed).cells = (t'.oriented transposed).cells := by
  cases transposed with
  | false => exact h
  | true =>
    change t.columns = t'.columns
    rw [columns, columns, width, width, h]

end DataTable

end StepPhrase
