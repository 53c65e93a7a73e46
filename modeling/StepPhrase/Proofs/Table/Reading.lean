import StepPhrase.Proofs.Except
import StepPhrase.Table.Row

/-! Headers and the rows below them: at which positions the names of a header stand, which cells a
row has under them, and which rows records are read from. -/
namespace StepPhrase

variable {names : List String} {rows : List (List String)} {name cell : String} {j : Nat}

/-- The name at the position is the first one that stands further left too. -/
structure FirstRepeated (names : List String) (i : Nat) (name : String) : Prop where
  found : names[i]? = some name
  earlier : name ∈ names.take i
  before : (names.take i).Nodup

theorem FirstRepeated.not_nodup {i : Nat} (h : FirstRepeated names i name) : ¬names.Nodup := by
  intro hnodup
  obtain ⟨k, hk, heq⟩ := List.mem_take_iff_getElem.1 h.earlier
  have hlt : k < names.length := Nat.lt_of_lt_of_le hk (Nat.min_le_right i names.length)
  have hfound : names[k]? = names[i]? := by
    rw [h.found, ← heq, List.getElem?_eq_getElem]
  have hki : k = i := (List.getElem?_inj hlt hnodup).1 hfound
  omega

theorem repeatedName?_eq_some_iff {seen : List String} : repeatedName? seen names = some name ↔
    ∃ i : Nat, names[i]? = some name ∧ (name ∈ seen ∨ name ∈ names.take i) ∧
      (names.take i).Nodup ∧ ∀ other ∈ names.take i, other ∉ seen := by
  induction names generalizing seen with
  | nil => simp [repeatedName?]
  | cons first names ih =>
    rw [repeatedName?]
    split
    · rename_i hseen
      have hmem : first ∈ seen := by simpa using hseen
      constructor
      · intro h
        cases h
        exact ⟨0, rfl, .inl hmem, by simp, by simp⟩
      · rintro ⟨i, hi, -, -, hbefore⟩
        cases i with
        | zero => exact hi
        | succ i => exact absurd hmem (hbefore first List.mem_cons_self)
    · rename_i hseen
      have hnot : first ∉ seen := by simpa using hseen
      rw [ih]
      constructor
      · rintro ⟨i, hi, hname, hnodup, hbefore⟩
        refine ⟨i + 1, hi, ?_, List.nodup_cons.2 ⟨fun hmem => ?_, hnodup⟩, ?_⟩
        · rwa [List.mem_cons, or_assoc, or_left_comm, ← List.mem_cons] at hname
        · exact hbefore first hmem List.mem_cons_self
        · intro other hother
          rcases List.mem_cons.1 hother with rfl | hother
          · exact hnot
          · exact fun hmem => hbefore other hother (List.mem_cons_of_mem first hmem)
      · rintro ⟨i, hi, hname, hnodup, hbefore⟩
        cases i with
        | zero =>
          cases hi
          simp [hnot] at hname
        | succ i =>
          rw [List.take_succ_cons] at hname hnodup hbefore
          obtain ⟨hfirst, hnodup⟩ := List.nodup_cons.1 hnodup
          refine ⟨i, hi, ?_, hnodup, fun other hother hmem => ?_⟩
          · rwa [List.mem_cons, or_assoc, or_left_comm, ← List.mem_cons]
          · rcases List.mem_cons.1 hmem with rfl | hmem
            · exact hfirst hother
            · exact hbefore other (List.mem_cons_of_mem first hother) hmem

theorem repeatedName?_nil_eq_some_iff :
    repeatedName? [] names = some name ↔ ∃ i, FirstRepeated names i name := by
  rw [repeatedName?_eq_some_iff]
  simp only [List.not_mem_nil, false_or, not_false_eq_true, implies_true, and_true]
  exact exists_congr fun i => ⟨fun ⟨hi, hmem, hnodup⟩ => ⟨hi, hmem, hnodup⟩,
    fun h => ⟨h.found, h.earlier, h.before⟩⟩

namespace Header

variable {header : Header} {n : Nat}

theorem columns_of_ofRow (h : ofRow names = .ok header) : header.columns = names := by
  unfold ofRow at h
  split at h
  · cases h
  · cases h
    rfl

theorem ofRow_eq_error_iff {e : TableError} : ofRow names = .error e ↔
    ∃ i name, FirstRepeated names i name ∧ e = .duplicateHeader name := by
  unfold ofRow
  split
  · rename_i name hname
    obtain ⟨i, hi⟩ := repeatedName?_nil_eq_some_iff.1 hname
    constructor
    · intro h
      cases h
      exact ⟨i, name, hi, rfl⟩
    · rintro ⟨j, name', hj, rfl⟩
      cases hname.symm.trans (repeatedName?_nil_eq_some_iff.2 ⟨j, hj⟩)
      rfl
  · rename_i hnone
    constructor
    · intro h
      cases h
    · rintro ⟨i, name, hi, -⟩
      cases hnone.symm.trans (repeatedName?_nil_eq_some_iff.2 ⟨i, hi⟩)

theorem exists_ofRow_eq_error (h : ¬names.Nodup) :
    ∃ name, ofRow names = .error (.duplicateHeader name) := by
  unfold ofRow
  split
  · exact ⟨_, rfl⟩
  · rename_i hnone
    exact absurd (nodup_of_repeatedName? hnone).1 h

theorem exists_firstRepeated (h : ¬names.Nodup) : ∃ i name, FirstRepeated names i name := by
  obtain ⟨name, hname⟩ := exists_ofRow_eq_error h
  obtain ⟨i, name, hrepeated, -⟩ := ofRow_eq_error_iff.1 hname
  exact ⟨i, name, hrepeated⟩

theorem ofRow_columns : ofRow header.columns = .ok header := by
  cases h : ofRow header.columns with
  | error e =>
    obtain ⟨i, name, hrepeated, -⟩ := ofRow_eq_error_iff.1 h
    exact absurd header.nodup hrepeated.not_nodup
  | ok other =>
    cases header
    cases other
    cases columns_of_ofRow h
    rfl

theorem exists_ofRow_iff : (∃ header, ofRow names = .ok header) ↔ names.Nodup := by
  constructor
  · rintro ⟨header, h⟩
    exact columns_of_ofRow h ▸ header.nodup
  · intro h
    have hcolumns : ofRow (⟨names, h⟩ : Header).columns = .ok ⟨names, h⟩ := ofRow_columns
    exact ⟨_, hcolumns⟩

theorem ofRow_eq_ok_iff : ofRow names = .ok header ↔ header.columns = names := by
  constructor
  · exact columns_of_ofRow
  · rintro rfl
    exact ofRow_columns

theorem position_eq_ok_iff : header.position name n = .ok j ↔ header.columns[j]? = some name := by
  rw [position]
  cases hidx : header.columns.idxOf? name with
  | none =>
    have hnot : name ∉ header.columns := List.idxOf?_eq_none_iff.1 hidx
    simp only [reduceCtorEq, false_iff]
    exact fun hj => hnot (List.mem_of_getElem? hj)
  | some i =>
    obtain ⟨hlt, hi, -⟩ := List.idxOf?_eq_some_iff.1 hidx
    have hfound : header.columns[i]? = some name := List.getElem?_eq_some_iff.2 ⟨hlt, hi⟩
    rw [← hfound, Except.ok.injEq, eq_comm (a := header.columns[j]?),
      List.getElem?_inj hlt header.nodup]

theorem position_eq_error_iff {e : TableError} : header.position name n = .error e ↔
    name ∉ header.columns ∧ e = .missingColumn n name := by
  rw [← List.idxOf?_eq_none_iff, position]
  cases header.columns.idxOf? name with
  | none => simp [eq_comm]
  | some i => simp

/-- The rows below a header, with their places in the table. -/
def dataRows (header : Header) (rows : List (List String)) : List Row :=
  rows.zipIdx.map fun (cells, i) => ⟨some header, 2 + i, i, cells⟩

end Header

namespace Row

variable {r : Row} {header : Header}

theorem cell_eq_ok_iff : r.cell j = .ok cell ↔ r.cells[j]? = some cell := by
  rw [Row.cell]
  cases r.cells[j]? with
  | none => simp
  | some text => simp

theorem column_eq_ok_iff (h : r.header = some header) :
    r.column name = .ok cell ↔
      ∃ j : Nat, header.columns[j]? = some name ∧ r.cells[j]? = some cell := by
  rw [column, bind_eq_ok_iff, position, h]
  simp only [Header.position_eq_ok_iff, cell_eq_ok_iff]

theorem column_eq_missingColumn_iff (h : r.header = some header) :
    r.column name = .error (.missingColumn r.rowNumber name) ↔ name ∉ header.columns := by
  rw [column, bind_eq_error_iff, position, h]
  simp only [Header.position_eq_error_iff, and_true, or_iff_left_iff_imp]
  rintro ⟨j, -, hcell⟩
  rw [Row.cell] at hcell
  split at hcell
  · cases hcell
  · cases hcell

end Row

namespace RowReader

variable {α : Type} {reader : RowReader α} {t t' : DataTable}

/-- Records are read from the cells, whatever the table is bound to. -/
theorem readTable_congr (h : t.cells = t'.cells) : reader.readTable t = reader.readTable t' := by
  rw [readTable, readTable, h]

theorem readTable_of_header (hheader : reader.requiresHeader = true)
    (hcells : t.cells = names :: rows) : reader.readTable t =
      (Header.ofRow names).bind fun header => (header.dataRows rows).mapM reader.read := by
  rw [readTable, if_pos hheader, hcells]
  simp only [Header.dataRows, List.mapM_map]
  rfl

end RowReader

end StepPhrase
