import Mathlib.Data.List.Dedup
import StepPhrase.Proofs.Lookup
import StepPhrase.Proofs.Table.Reading
import StepPhrase.Proofs.Table.Rows
import StepPhrase.Registry
import StepPhrase.Suite.Record

/-! Maps of the cells of rows by the names above them, and records that are read from the same rows:
where the names differ, both see the same cells; where a name is repeated, the maps lose cells, and
the records are refused. -/
namespace StepPhrase

variable {names row : List String} {rows : List (List String)} {name cell : String} {m m' : CellMap}
  {j : Nat}

/-- Column `j` is the last one under the name. -/
structure LastColumn (names : List String) (name : String) (j : Nat) : Prop where
  found : names[j]? = some name
  last : ∀ j' > j, names[j']? ≠ some name

theorem lastColumn_zero_iff {first : String} :
    LastColumn (first :: names) name 0 ↔ first = name ∧ name ∉ names := by
  constructor
  · rintro ⟨hfound, hlast⟩
    refine ⟨Option.some.inj hfound, fun hmem => ?_⟩
    obtain ⟨j, hj⟩ := List.getElem?_of_mem hmem
    exact hlast (j + 1) (Nat.succ_pos j) hj
  · rintro ⟨rfl, hnot⟩
    refine ⟨rfl, ?_⟩
    rintro (_ | j) hpos hj
    · omega
    · exact hnot (List.mem_of_getElem? hj)

theorem lastColumn_succ_iff {first : String} :
    LastColumn (first :: names) name (j + 1) ↔ LastColumn names name j := by
  constructor
  · rintro ⟨hfound, hlast⟩
    exact ⟨hfound, fun j' hj' => hlast (j' + 1) (Nat.succ_lt_succ hj')⟩
  · rintro ⟨hfound, hlast⟩
    refine ⟨hfound, ?_⟩
    rintro (_ | j') hj'
    · omega
    · exact hlast j' (Nat.lt_of_succ_lt_succ hj')

theorem lastColumn_iff_of_nodup (h : names.Nodup) :
    LastColumn names name j ↔ names[j]? = some name := by
  refine ⟨LastColumn.found, fun hfound => ⟨hfound, fun j' hj' hfound' => ?_⟩⟩
  have hlt : j < names.length := (List.getElem?_eq_some_iff.1 hfound).1
  have heq : j = j' := (List.getElem?_inj hlt h).1 (hfound.trans hfound'.symm)
  omega

namespace Converter

theorem get?_namedCells_cons {first text : String} :
    (namedCells (first :: names) (text :: row)).get? name =
      ((namedCells names row).get? name).or (if first = name then some text else none) :=
  NameMap.get?_ofList_cons

theorem get?_namedCells_eq_none_iff (h : row.length = names.length) :
    (namedCells names row).get? name = none ↔ name ∉ names := by
  induction names generalizing row with
  | nil =>
    cases List.eq_nil_of_length_eq_zero h
    simp [namedCells, NameMap.get?_ofList]
  | cons first names ih =>
    cases row with
    | nil => cases h
    | cons text row =>
      have hfirst : (if first = name then some text else none) = none ↔ name ≠ first := by
        simp [eq_comm]
      rw [get?_namedCells_cons, Option.or_eq_none_iff, ih (Nat.succ.inj h), hfirst, List.mem_cons,
        not_or, and_comm]

/-- Of the cells of columns under one name, the map has the last one. -/
theorem get?_namedCells_eq_some_iff (h : row.length = names.length) :
    (namedCells names row).get? name = some cell ↔
      ∃ j, LastColumn names name j ∧ row[j]? = some cell := by
  induction names generalizing row with
  | nil =>
    cases List.eq_nil_of_length_eq_zero h
    simp [namedCells, NameMap.get?_ofList]
  | cons first names ih =>
    cases row with
    | nil => cases h
    | cons text row =>
      have hlength : row.length = names.length := Nat.succ.inj h
      rw [get?_namedCells_cons, Option.or_eq_some_iff, ih hlength,
        get?_namedCells_eq_none_iff hlength, Option.ite_none_right_eq_some]
      -- the last column of the name comes later, or the name is the first and comes no more
      constructor
      · rintro (⟨j, hj, hcell⟩ | ⟨hnot, hname, hcell⟩)
        · exact ⟨j + 1, lastColumn_succ_iff.2 hj, hcell⟩
        · exact ⟨0, lastColumn_zero_iff.2 ⟨hname, hnot⟩, hcell⟩
      · rintro ⟨j, hj, hcell⟩
        cases j with
        | zero =>
          obtain ⟨hname, hnot⟩ := lastColumn_zero_iff.1 hj
          exact .inr ⟨hnot, hname, hcell⟩
        | succ j => exact .inl ⟨j, lastColumn_succ_iff.1 hj, hcell⟩

/-- Each name has one entry, however often it is repeated. -/
theorem size_namedCells (h : row.length = names.length) :
    (namedCells names row).size = names.dedup.length := by
  have hmem : ∀ name, name ∈ (namedCells names row).names ↔ name ∈ names.dedup := by
    intro name
    rw [NameMap.mem_names_iff, ← Option.ne_none_iff_exists', ne_eq, get?_namedCells_eq_none_iff h,
      not_not, List.mem_dedup]
  have hperm : (namedCells names row).names.Perm names.dedup :=
    (List.perm_ext_iff_of_nodup NameMap.nodup_keys names.nodup_dedup).2 hmem
  rw [← hperm.length_eq, NameMap.size, NameMap.names, List.length_map]

end Converter

/-- No cell of the row is lost: the map has each under the name above it. -/
def Keeps (names row : List String) (m : CellMap) : Prop :=
  ∀ (j : Nat) name cell, names[j]? = some name → row[j]? = some cell → m.get? name = some cell

/-- What the map of a row has: the cell of the last column under each name, which is all there is
just if columns under one name have one cell. -/
structure KeepsLast (names row : List String) (m : CellMap) : Prop where
  held : ∀ name cell, m.get? name = some cell ↔
    ∃ j, LastColumn names name j ∧ row[j]? = some cell
  absent : ∀ name, m.get? name = none ↔ name ∉ names
  size : m.size = names.dedup.length
  keeps_of_nodup : names.Nodup → Keeps names row m
  keeps_iff : Keeps names row m ↔ ∀ i j : Nat, names[i]? = names[j]? → row[i]? = row[j]?

namespace Converter

theorem keeps_namedCells_iff (h : row.length = names.length) :
    Keeps names row (namedCells names row) ↔
      ∀ i j : Nat, names[i]? = names[j]? → row[i]? = row[j]? := by
  have hnone : ∀ j : Nat, names[j]? = none ↔ row[j]? = none := by
    simp [h]
  constructor
  · intro hkeeps i j hij
    cases hi : names[i]? with
    | none => rw [(hnone i).1 hi, (hnone j).1 (hij.symm.trans hi)]
    | some name =>
      have hcell : ∀ j' : Nat, names[j']? = some name →
          row[j']? = (namedCells names row).get? name := by
        intro j' hj'
        cases hrow : row[j']? with
        | none =>
          rw [(hnone j').2 hrow] at hj'
          cases hj'
        | some cell => exact (hkeeps j' name cell hj' hrow).symm
      rw [hcell i hi, hcell j (hij.symm.trans hi)]
  · intro heq j name cell hname hcell
    have hpresent : (namedCells names row).get? name ≠ none := by
      rw [ne_eq, get?_namedCells_eq_none_iff h, not_not]
      exact List.mem_of_getElem? hname
    obtain ⟨held, hheld⟩ := Option.ne_none_iff_exists'.1 hpresent
    obtain ⟨j', hlast, hcell'⟩ := (get?_namedCells_eq_some_iff h).1 hheld
    rw [hheld, ← hcell', ← hcell]
    exact heq j' j (hlast.found.trans hname.symm)

theorem keepsLast_namedCells (h : row.length = names.length) :
    KeepsLast names row (namedCells names row) where
  held _ _ := get?_namedCells_eq_some_iff h
  absent _ := get?_namedCells_eq_none_iff h
  size := size_namedCells h
  keeps_of_nodup hnodup j _ _ hname hcell :=
    (get?_namedCells_eq_some_iff h).2 ⟨j, (lastColumn_iff_of_nodup hnodup).2 hname, hcell⟩
  keeps_iff := keeps_namedCells_iff h

/-- A map of pairs has what it had before, and the value of each row under its key. -/
theorem get?_of_addPairs (h : addPairs m rows = .ok m') :
    (∀ name cell, m.get? name = some cell → m'.get? name = some cell) ∧
      ∀ row ∈ rows, ∃ key value, row = [key, value] ∧ m'.get? key = some value := by
  induction rows generalizing m with
  | nil =>
    cases h
    exact ⟨fun _ _ => id, by simp⟩
  | cons row rows ih =>
    match row with
    | [] => cases h
    | [_] => cases h
    | _ :: _ :: _ :: _ => cases h
    | [key, value] =>
      rw [addPairs] at h
      split at h
      · cases h
      · rename_i hnew
        obtain ⟨hkept, hrows⟩ := ih h
        refine ⟨fun name cell hcell => hkept name cell ?_, ?_⟩
        · have hne : key ≠ name := by
            rintro rfl
            simp [NameMap.contains, hcell] at hnew
          rw [NameMap.get?_insert, if_neg hne, hcell]
        · rintro row hrow
          rcases List.mem_cons.1 hrow with rfl | hrow
          · exact ⟨key, value, rfl, hkept key value (by rw [NameMap.get?_insert, if_pos rfl])⟩
          · exact hrows row hrow

end Converter

/-- The map and the row give the same cells under the same names, one for each column. -/
structure CellsAgree (width : Nat) (m : CellMap) (r : Row) : Prop where
  held : ∀ name cell, m.get? name = some cell ↔ r.column name = .ok cell
  absent : ∀ name, m.get? name = none ↔ r.column name = .error (.missingColumn r.rowNumber name)
  size : m.size = width

section Tables

variable {κ : Type} [RecordKind κ] {t : DataTable} {header : Header}

theorem Converter.run_headerMaps (conversions : Conversions κ) (h : t.cells = names :: rows) :
    headerMaps.run conversions t = .ok (rows.map (namedCells names)) := by
  cases t with
  | mk cells length_eq binding =>
    cases h
    rfl

theorem Converter.cellsAgree_namedCells {r : Row} (hheader : r.header = some header)
    (hlength : r.cells.length = header.columns.length) :
    CellsAgree header.columns.length (namedCells header.columns r.cells) r where
  held name cell := by
    rw [get?_namedCells_eq_some_iff hlength, Row.column_eq_ok_iff hheader]
    simp only [lastColumn_iff_of_nodup header.nodup]
  absent name := by
    rw [get?_namedCells_eq_none_iff hlength, Row.column_eq_missingColumn_iff hheader]
  size := by rw [size_namedCells hlength, header.nodup.dedup]

theorem Converter.forall₂_keepsLast (h : ∀ row ∈ rows, row.length = names.length) :
    List.Forall₂ (KeepsLast names) rows (rows.map (namedCells names)) := by
  rw [List.forall₂_map_right_iff, List.forall₂_same]
  intro row hrow
  exact keepsLast_namedCells (h row hrow)

theorem Converter.forall₂_cellsAgree (h : ∀ row ∈ rows, row.length = header.columns.length) :
    List.Forall₂ (CellsAgree header.columns.length) (rows.map (namedCells header.columns))
      (header.dataRows rows) := by
  have hrows : rows.zipIdx.map Prod.fst = rows := List.zipIdx_map_fst 0 rows
  nth_rewrite 1 [← hrows]
  rw [Header.dataRows, List.map_map, List.forall₂_map_left_iff, List.forall₂_map_right_iff,
    List.forall₂_same]
  rintro ⟨cells, i⟩ hmem
  have hrow : cells ∈ rows := by
    rw [← hrows]
    exact List.mem_map_of_mem hmem
  exact cellsAgree_namedCells (r := ⟨some header, 2 + i, i, cells⟩) rfl (h cells hrow)

/-- Each row below the first becomes a map with the cells of the last columns under each name, so
that no cell is lost just if columns under one name have one cell; where names are repeated, records
are refused. Maps of keys and values lose no cell. -/
theorem headerMaps_keep_last (conversions : Conversions κ) (h : t.cells = names :: rows) :
    (∃ maps, Converter.headerMaps.run conversions t = .ok maps ∧
      List.Forall₂ (KeepsLast names) rows maps) ∧
    (¬names.Nodup → ∀ (α : Type) (reader : RowReader α), reader.requiresHeader = true →
      ∃ name, reader.readTable t = .error (.duplicateHeader name)) ∧
    ∀ m, Converter.pairs.run conversions t = .ok m →
      ∀ row ∈ t.cells, ∃ key value, row = [key, value] ∧ m.get? key = some value := by
  refine ⟨⟨_, Converter.run_headerMaps conversions h, ?_⟩, ?_, ?_⟩
  · exact Converter.forall₂_keepsLast (DataTable.length_of_cells h)
  · intro hrepeated α reader hreader
    obtain ⟨name, hname⟩ := Header.exists_ofRow_eq_error hrepeated
    refine ⟨name, ?_⟩
    rw [RowReader.readTable_of_header hreader h, hname]
    rfl
  · intro m hm
    exact (Converter.get?_of_addPairs hm).2

/-- Two columns have one name, and the first row below it has different cells there. -/
def Suite.repeatedName : DataTable := ⟨[["a", "a"], ["1", "2"], ["3", "3"]], by decide, none⟩

open Suite in
/-- The cell in the first column is lost where the second has another. -/
theorem headerMaps_keep_last_repeated : ∃ first second : CellMap,
    Converter.headerMaps.run (Registry.convert (κ := RecordType) {}) repeatedName =
        .ok [first, second] ∧
      first.get? "a" = some "2" ∧ ¬Keeps ["a", "a"] ["1", "2"] first ∧
      Keeps ["a", "a"] ["3", "3"] second ∧ second.size = 1 ∧
      (∃ name, (RecordType.reader .person).readTable repeatedName =
        .error (.duplicateHeader name)) ∧
      ∃ m : CellMap, Converter.pairs.run (Registry.convert (κ := RecordType) {}) repeatedName =
        .ok m ∧ m.get? "1" = some "2" := by
  have hcells : repeatedName.cells = ["a", "a"] :: [["1", "2"], ["3", "3"]] := rfl
  obtain ⟨⟨maps, hmaps, hkeep⟩, hrefused, hpairs⟩ :=
    headerMaps_keep_last (Registry.convert (κ := RecordType) {}) hcells
  match maps, hkeep with
  | [first, second], .cons hfirst (.cons hsecond .nil) =>
    refine ⟨first, second, hmaps, (hfirst.held _ _).2 ⟨1, ⟨rfl, ?_⟩, rfl⟩, fun hall => ?_,
      hsecond.keeps_iff.2 ?_, hsecond.size, hrefused (by decide) _ _ rfl, _, rfl, ?_⟩
    · rintro (_ | _ | j) hj
      · omega
      · omega
      · simp
    · have heq := hfirst.keeps_iff.1 hall 0 1 rfl
      simp at heq
    · rintro (_ | _ | i) (_ | _ | j) heq
      all_goals first
      | rfl
      | simp at heq
    · obtain ⟨key, value, heq, hvalue⟩ := hpairs _ rfl ["1", "2"] (by decide)
      cases heq
      exact hvalue

/-- Where the first row is a header, maps and records come of the same rows in the same order, and a
row has the same cells under the same names in both. -/
theorem headerMaps_agree_with_records (conversions : Conversions κ)
    (hcells : t.cells = names :: rows) (hheader : Header.ofRow names = .ok header) :
    (header.dataRows rows).map (·.cells) = rows ∧
    (∀ (α : Type) (reader : RowReader α), reader.requiresHeader = true →
      reader.readTable t = (header.dataRows rows).mapM reader.read) ∧
    ∃ maps, Converter.headerMaps.run conversions t = .ok maps ∧
      List.Forall₂ (CellsAgree t.width) maps (header.dataRows rows) := by
  obtain rfl := Header.columns_of_ofRow hheader
  have hwidth : t.width = header.columns.length := by
    rw [DataTable.width, hcells]
    rfl
  refine ⟨?_, ?_, _, Converter.run_headerMaps conversions hcells, ?_⟩
  · rw [Header.dataRows, List.map_map]
    exact List.zipIdx_map_fst 0 rows
  · intro α reader hreader
    rw [RowReader.readTable_of_header hreader hcells, hheader]
    rfl
  · rw [hwidth]
    exact Converter.forall₂_cellsAgree (DataTable.length_of_cells hcells)

def Suite.people : DataTable :=
  ⟨[["name", "age"], ["Ann", "30"], ["Bo", "4"]], by decide, none⟩

open Suite in
/-- A map and a person are made of each row, which has no other names than those of the header. -/
theorem headerMaps_agree_with_records_people : ∃ (header : Header) (ann bo : CellMap),
    Header.ofRow ["name", "age"] = .ok header ∧
      Converter.headerMaps.run (Registry.convert (κ := RecordType) {}) people = .ok [ann, bo] ∧
      (RecordType.reader .person).readTable people =
        [⟨some header, 2, 0, ["Ann", "30"]⟩, ⟨some header, 3, 1, ["Bo", "4"]⟩].mapM
          (RecordType.reader .person).read ∧
      ann.get? "age" = some "30" ∧ bo.get? "Age" = none ∧ bo.size = 2 := by
  have hcells : people.cells = ["name", "age"] :: [["Ann", "30"], ["Bo", "4"]] := rfl
  have hheader : Header.ofRow ["name", "age"] = .ok ⟨["name", "age"], by decide⟩ := rfl
  obtain ⟨-, hread, maps, hmaps, hagree⟩ :=
    headerMaps_agree_with_records (Registry.convert (κ := RecordType) {}) hcells hheader
  match maps, hagree with
  | [ann, bo], .cons hann (.cons hbo .nil) =>
    exact ⟨_, ann, bo, hheader, hmaps, hread _ _ rfl, (hann.held _ _).2 rfl, (hbo.absent _).2 rfl,
      hbo.size⟩

end Tables

end StepPhrase
