import StepPhrase.Conversion.Converter
import StepPhrase.Proofs.Lookup
import StepPhrase.Proofs.Table.Reading
import StepPhrase.Proofs.Table.Rows

/-! Names that have to differ: those of a header, and the keys in the first column of a table. A map
is filled with them one by one, and the first that is repeated is refused. -/
namespace StepPhrase

namespace NameMap

variable {α : Type} {m m' : NameMap α} {name : String} {a : α}
  {entries filled : List (String × α)} {seen : List String}

/-- Adds entries in their order. A name that has an entry is refused. -/
def extend (m : NameMap α) : List (String × α) → Except String (NameMap α)
  | [] => .ok m
  | (name, a) :: rest => if m.contains name then .error name else (m.insert name a).extend rest

/-- The map has these entries and no others. -/
def HasJust (m : NameMap α) (entries : List (String × α)) : Prop :=
  ∀ name a, m.get? name = some a ↔ (name, a) ∈ entries

theorem hasJust_empty : (∅ : NameMap α).HasJust [] := by
  simp [HasJust]

/-- One entry more. -/
theorem HasJust.insert (h : m.HasJust filled) (hnew : m.contains name = false) :
    (m.insert name a).HasJust (filled ++ [(name, a)]) := by
  intro other b
  have hother : other = name → (other, b) ∉ filled := by
    rintro rfl hmem
    rw [contains_iff.2 ⟨b, (h _ _).2 hmem⟩] at hnew
    cases hnew
  rw [get?_insert, List.mem_append, List.mem_singleton, Prod.mk.injEq]
  split
  · rename_i heq
    simp only [hother heq.symm, false_or, heq, true_and, Option.some.injEq, eq_comm]
  · rename_i hne
    simp only [h other b, Ne.symm hne, false_and, or_false]

/-- The map has just what it was filled with so far, to the last entry. -/
theorem HasJust.extend (h : m.HasJust filled) (hextend : m.extend entries = .ok m') :
    m'.HasJust (filled ++ entries) := by
  induction entries generalizing m filled with
  | nil =>
    cases hextend
    rwa [List.append_nil]
  | cons entry entries ih =>
    rw [NameMap.extend] at hextend
    split at hextend
    · cases hextend
    · rename_i hnew
      have hone := h.insert (a := entry.2) (Bool.eq_false_iff.2 hnew)
      rw [← List.singleton_append, ← List.append_assoc]
      exact ih hone hextend

/-- The name that is refused is the first one that was seen before. -/
theorem extend_eq_error_iff (hseen : ∀ key, m.contains key = true ↔ key ∈ seen) :
    m.extend entries = .error name ↔ repeatedName? seen (entries.map (·.1)) = some name := by
  induction entries generalizing m seen with
  | nil => simp [extend, repeatedName?]
  | cons entry entries ih =>
    rw [extend, List.map_cons, repeatedName?]
    by_cases hentry : m.contains entry.1 = true
    · have hmem : seen.contains entry.1 = true := by simpa using (hseen _).1 hentry
      rw [if_pos hentry, if_pos hmem, Except.error.injEq, Option.some.injEq]
    · have hmem : ¬seen.contains entry.1 = true := by simpa using (hseen _).not.1 hentry
      rw [if_neg hentry, if_neg hmem]
      refine ih fun key => ?_
      rw [contains_insert_iff, hseen, List.mem_cons]

theorem extend_empty_eq_error_iff : (∅ : NameMap α).extend entries = .error name ↔
    ∃ i, FirstRepeated (entries.map (·.1)) i name := by
  have hseen : ∀ key, (∅ : NameMap α).contains key = true ↔ key ∈ [] := by
    simp [contains]
  rw [extend_eq_error_iff hseen, repeatedName?_nil_eq_some_iff]

theorem exists_extend_empty_iff :
    (∃ m, (∅ : NameMap α).extend entries = .ok m) ↔ (entries.map (·.1)).Nodup := by
  rw [← not_iff_not, ← exists_eq_error_iff]
  constructor
  · rintro ⟨name, h⟩
    obtain ⟨i, hrepeated⟩ := extend_empty_eq_error_iff.1 h
    exact hrepeated.not_nodup
  · intro h
    obtain ⟨i, name, hrepeated⟩ := Header.exists_firstRepeated h
    exact ⟨name, extend_empty_eq_error_iff.2 ⟨i, hrepeated⟩⟩

theorem hasJust_of_extend (h : (∅ : NameMap α).extend entries = .ok m) : m.HasJust entries :=
  hasJust_empty.extend h

theorem HasJust.size (h : m.HasJust entries) (hnodup : (entries.map (·.1)).Nodup) :
    m.size = entries.length := by
  have hmem : ∀ name, name ∈ m.names ↔ name ∈ entries.map (·.1) := by
    intro name
    simp only [mem_names_iff, h name, List.mem_map, Prod.exists, exists_and_right, exists_eq_right]
  have hperm : m.names.Perm (entries.map (·.1)) :=
    (List.perm_ext_iff_of_nodup nodup_keys hnodup).2 hmem
  calc
    m.size = m.names.length := (List.length_map ..).symm
    _ = (entries.map (·.1)).length := hperm.length_eq
    _ = entries.length := List.length_map ..

end NameMap

variable {κ : Type} [RecordKind κ] {conversions : Conversions κ} {t : DataTable} {row : List String}
  {rows : List (List String)} {entries : List (String × String)} {m m' : CellMap}
  {e : ConversionError}

namespace DataTable

/-- The cells in the first column. -/
def keys (t : DataTable) : List String := t.cells.filterMap (·[0]?)

/-- The map has one entry for each row of the table, from the first cell to the second. -/
structure KeyedBy (t : DataTable) (m : CellMap) : Prop where
  held : ∀ key value, m.get? key = some value ↔ [key, value] ∈ t.cells
  size : m.size = t.height

theorem KeyedBy.unique (h : t.KeyedBy m) (h' : t.KeyedBy m') : m = m' := by
  apply NameMap.ext_get?
  intro key
  apply Option.ext
  intro value
  rw [h.held, h'.held]

theorem exists_pairs (h : ∀ row ∈ rows, row.length = 2) :
    ∃ entries : List (String × String), rows = entries.map fun (key, value) => [key, value] := by
  induction rows with
  | nil => exact ⟨[], rfl⟩
  | cons row rows ih =>
    obtain ⟨hrow, hrows⟩ := List.forall_mem_cons.1 h
    obtain ⟨key, value, rfl⟩ := List.length_eq_two.1 hrow
    obtain ⟨entries, rfl⟩ := ih hrows
    exact ⟨(key, value) :: entries, rfl⟩

/-- A table of two columns is a list of entries. -/
theorem exists_entries (h : t.cells = [] ∨ t.width = 2) :
    ∃ entries : List (String × String),
      t.cells = entries.map fun (key, value) => [key, value] := by
  rcases h with h | h
  · exact ⟨[], h⟩
  · exact exists_pairs fun row hrow => (t.length_eq row hrow).trans h

theorem keys_eq (h : t.cells = entries.map fun (key, value) => [key, value]) :
    t.keys = entries.map (·.1) := by
  rw [keys, h, List.filterMap_map]
  exact List.filterMap_eq_map_iff_forall_eq_some.2 fun _ _ => rfl

theorem keys_of_cells_eq_nil (h : t.cells = []) : t.keys = [] := by
  rw [keys, h]
  rfl

theorem keyedBy_of_hasJust (h : t.cells = entries.map fun (key, value) => [key, value])
    (hm : m.HasJust entries) (hnodup : t.keys.Nodup) : t.KeyedBy m := by
  rw [keys_eq h] at hnodup
  constructor
  · intro key value
    simp [hm key value, h]
  · rw [hm.size hnodup, height, h, List.length_map]

end DataTable

namespace Converter

/-- Pairs are added to a map as its entries are. -/
theorem addPairs_map : addPairs m (entries.map fun (key, value) => [key, value]) =
    (m.extend entries).mapError .duplicateKey := by
  induction entries generalizing m with
  | nil => rfl
  | cons entry entries ih =>
    rw [List.map_cons, addPairs, NameMap.extend]
    split
    · rfl
    · exact ih

theorem addPairs_of_length_ne (h : row.length ≠ 2) :
    addPairs m (row :: rows) = .error (.columnCount 2 row.length) := by
  match row with
  | [] => rfl
  | [_] => rfl
  | [_, _] => exact absurd rfl h
  | _ :: _ :: _ :: _ => rfl

theorem run_pairs_of_width_ne (hcells : t.cells ≠ []) (hwidth : t.width ≠ 2) :
    pairs.run conversions t = .error (.columnCount 2 t.width) := by
  obtain ⟨row, rows, hrows⟩ := List.exists_cons_of_ne_nil hcells
  have hrow : t.width = row.length := by
    rw [DataTable.width, hrows]
    rfl
  rw [hrow] at hwidth ⊢
  change addPairs ∅ t.cells = _
  rw [hrows]
  exact addPairs_of_length_ne hwidth

/-- A table that has no other columns is read as a list of entries. -/
theorem run_pairs_of_shape (conversions : Conversions κ) (h : t.cells = [] ∨ t.width = 2) :
    ∃ entries : List (String × String),
      t.cells = entries.map (fun (key, value) => [key, value]) ∧
      t.keys = entries.map (·.1) ∧
      pairs.run conversions t = ((∅ : CellMap).extend entries).mapError .duplicateKey := by
  obtain ⟨entries, hentries⟩ := DataTable.exists_entries h
  refine ⟨entries, hentries, DataTable.keys_eq hentries, ?_⟩
  change addPairs ∅ t.cells = _
  rw [hentries]
  exact addPairs_map

theorem exists_run_pairs_iff : (∃ m : CellMap, pairs.run conversions t = .ok m) ↔
    t.cells = [] ∨ t.width = 2 ∧ t.keys.Nodup := by
  by_cases hshape : t.cells = [] ∨ t.width = 2
  · obtain ⟨entries, -, hkeys, hrun⟩ := run_pairs_of_shape conversions hshape
    have hnodup : (∃ m : CellMap, pairs.run conversions t = .ok m) ↔ t.keys.Nodup := by
      rw [hrun, hkeys, ← NameMap.exists_extend_empty_iff]
      exact exists_congr fun m => mapError_eq_ok_iff
    rw [hnodup]
    constructor
    · exact fun h => hshape.imp_right fun hwidth => ⟨hwidth, h⟩
    · rintro (hcells | ⟨-, h⟩)
      · rw [DataTable.keys_of_cells_eq_nil hcells]
        exact .nil
      · exact h
  · obtain ⟨hcells, hwidth⟩ := not_or.1 hshape
    simp [run_pairs_of_width_ne hcells hwidth, hcells, hwidth]

theorem keyedBy_of_run_pairs (h : pairs.run conversions t = .ok m) : t.KeyedBy m := by
  have hshape : t.cells = [] ∨ t.width = 2 :=
    (exists_run_pairs_iff.1 ⟨m, h⟩).imp_right And.left
  obtain ⟨entries, hcells, hkeys, hrun⟩ := run_pairs_of_shape conversions hshape
  rw [hrun] at h
  have hextend : (∅ : CellMap).extend entries = .ok m := mapError_eq_ok_iff.1 h
  refine DataTable.keyedBy_of_hasJust hcells (NameMap.hasJust_of_extend hextend) ?_
  rw [hkeys]
  exact NameMap.exists_extend_empty_iff.1 ⟨m, hextend⟩

theorem run_pairs_eq_error_iff : pairs.run conversions t = .error e ↔
    (t.cells ≠ [] ∧ t.width ≠ 2 ∧ e = .columnCount 2 t.width) ∨
    (t.width = 2 ∧ ∃ i key, FirstRepeated t.keys i key ∧ e = .duplicateKey key) := by
  by_cases hshape : t.cells = [] ∨ t.width = 2
  · obtain ⟨entries, -, hkeys, hrun⟩ := run_pairs_of_shape conversions hshape
    rw [hrun]
    refine mapError_eq_error_iff.trans ?_
    simp only [NameMap.extend_empty_eq_error_iff, ← hkeys]
    constructor
    · rintro ⟨key, ⟨i, h⟩, rfl⟩
      refine .inr ⟨hshape.resolve_left fun hcells => ?_, i, key, h, rfl⟩
      rw [DataTable.keys_of_cells_eq_nil hcells] at h
      exact h.not_nodup .nil
    · rintro (⟨hcells, hwidth, -⟩ | ⟨-, i, key, h, rfl⟩)
      · exact absurd hshape (not_or.2 ⟨hcells, hwidth⟩)
      · exact ⟨key, ⟨i, h⟩, rfl⟩
  · obtain ⟨hcells, hwidth⟩ := not_or.1 hshape
    simp [run_pairs_of_width_ne hcells hwidth, hcells, hwidth, eq_comm]

/-- The keys and values of a table make a map just if there are no rows, or two columns and no key
twice; the map has an entry for each row, and nothing else. A table of other columns is refused for
their number, and one of two columns for the first key that stands further up too. -/
theorem pairs_faithful_or_refused (conversions : Conversions κ) (t : DataTable) :
    ((∃ m : CellMap, pairs.run conversions t = .ok m) ↔
      t.cells = [] ∨ t.width = 2 ∧ t.keys.Nodup) ∧
    (∀ m : CellMap, pairs.run conversions t = .ok m ↔
      (t.cells = [] ∨ t.width = 2 ∧ t.keys.Nodup) ∧ t.KeyedBy m) ∧
    ∀ e, pairs.run conversions t = .error e ↔
      (t.cells ≠ [] ∧ t.width ≠ 2 ∧ e = .columnCount 2 t.width) ∨
      (t.width = 2 ∧ ∃ i key, FirstRepeated t.keys i key ∧ e = .duplicateKey key) := by
  refine ⟨exists_run_pairs_iff, fun m => ⟨fun h => ?_, fun ⟨h, hm⟩ => ?_⟩,
    fun e => run_pairs_eq_error_iff⟩
  · exact ⟨exists_run_pairs_iff.1 ⟨m, h⟩, keyedBy_of_run_pairs h⟩
  · obtain ⟨m', hm'⟩ : ∃ m' : CellMap, pairs.run conversions t = .ok m' :=
      exists_run_pairs_iff.2 h
    rw [hm', hm.unique (keyedBy_of_run_pairs hm')]

/-- The first row that repeats a key is told, though another key was there before. -/
example (conversions : Conversions κ) :
    pairs.run conversions ⟨[["k", "1"], ["l", "2"], ["l", "3"], ["k", "4"]], by decide, none⟩ =
      .error (.duplicateKey "l") := rfl

end Converter

namespace Header

variable {names : List String} {header : Header} {index : NameMap Nat}

/-- The positions of the names, which are entered one by one. -/
def indexOf (names : List String) : Except TableError (NameMap Nat) :=
  ((∅ : NameMap Nat).extend names.zipIdx).mapError .duplicateHeader

theorem indexOf_eq_error_iff {e : TableError} :
    indexOf names = .error e ↔ ofRow names = .error e := by
  rw [indexOf, mapError_eq_error_iff, ofRow_eq_error_iff]
  simp only [NameMap.extend_empty_eq_error_iff, List.zipIdx_map_fst]
  constructor
  · rintro ⟨name, ⟨i, h⟩, rfl⟩
    exact ⟨i, name, h, rfl⟩
  · rintro ⟨i, name, h, rfl⟩
    exact ⟨name, ⟨i, h⟩, rfl⟩

theorem get?_of_indexOf (h : indexOf names = .ok index) {name : String} {i : Nat} :
    index.get? name = some i ↔ names[i]? = some name := by
  rw [NameMap.hasJust_of_extend (mapError_eq_ok_iff.1 h), List.mk_mem_zipIdx_iff_getElem?]

theorem exists_indexOf (header : Header) : ∃ index, indexOf header.columns = .ok index := by
  by_contra hnone
  obtain ⟨e, h⟩ := exists_eq_error_iff.2 hnone
  rw [indexOf_eq_error_iff, ofRow_columns] at h
  cases h

/-- The index tells the position of a name, or that there is none. -/
theorem position_eq_get? (h : indexOf header.columns = .ok index) (name : String) (n : Nat) :
    header.position name n = (index.get? name).elim (.error (.missingColumn n name)) .ok := by
  cases hget : index.get? name with
  | none =>
    refine position_eq_error_iff.2 ⟨fun hmem => ?_, rfl⟩
    obtain ⟨i, hi⟩ := List.getElem?_of_mem hmem
    rw [(get?_of_indexOf h).2 hi] at hget
    cases hget
  | some i => exact position_eq_ok_iff.2 ((get?_of_indexOf h).1 hget)

/-- A row is a header just if its names differ; otherwise the first one is told that stands further
left too. Every name and position of a header belong to each other or to none, and an index that is
filled with the names one by one refuses the same rows and tells the same positions. -/
theorem two_way_index :
    (∀ names, (∃ header, ofRow names = .ok header) ↔ names.Nodup) ∧
    (∀ names e, ofRow names = .error e ↔
      ∃ i name, FirstRepeated names i name ∧ e = .duplicateHeader name) ∧
    (∀ names header, ofRow names = .ok header ↔ header.columns = names) ∧
    (∀ names e, indexOf names = .error e ↔ ofRow names = .error e) ∧
    ∀ header : Header,
      (∀ name n i, header.position name n = .ok i ↔ header.column? i = some name) ∧
      (∀ name n e, header.position name n = .error e ↔
        name ∉ header.columns ∧ e = .missingColumn n name) ∧
      ∃ index, indexOf header.columns = .ok index ∧ ∀ name n,
        header.position name n = (index.get? name).elim (.error (.missingColumn n name)) .ok := by
  refine ⟨fun names => exists_ofRow_iff, fun names e => ofRow_eq_error_iff,
    fun names header => ofRow_eq_ok_iff, fun names e => indexOf_eq_error_iff,
    fun header => ⟨?_, ?_, ?_⟩⟩
  · exact fun name n i => position_eq_ok_iff
  · exact fun name n e => position_eq_error_iff
  · obtain ⟨index, h⟩ := exists_indexOf header
    exact ⟨index, h, position_eq_get? h⟩

end Header

end StepPhrase
