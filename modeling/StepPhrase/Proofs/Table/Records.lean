import StepPhrase.Proofs.Table.Reading
import StepPhrase.Suite.Script

/-! Records of tables: the rows they are read from, the first row that cannot be read, and the
places that faults of cells are told with. -/
namespace StepPhrase

variable {α β : Type} {t : DataTable} {headed : Bool} {r r' : Row} {header : Option Header}
  {rows : List (List String)} {records : List α} {reader : RowReader α} {e : TableError}
  {i first : Nat} {names : List String} {name : String} {read : String → Except Cause β}

namespace DataTable

/-- The row is one of the data of a table, below its header if there is one. Its number is its place
in the table, counted from one, and its index the place among the data, counted from zero. -/
structure DataRow (t : DataTable) (headed : Bool) (r : Row) : Prop where
  cells : t.row? (r.rowNumber - 1) = some r.cells
  rowNumber : r.rowNumber = headed.toNat + 1 + r.index
  header : r.header.map (·.columns) = if headed then t.row? 0 else none

/-- The names of the first row differ. -/
def HasHeader (t : DataTable) : Prop := ∃ names, t.row? 0 = some names ∧ names.Nodup

/-- The table is made of a header, if there has to be one, and the rows below it. -/
inductive Parts (t : DataTable) : Bool → Option Header → List (List String) → Prop
  | plain : Parts t false none t.cells
  | headed {header : Header} {rows : List (List String)} :
    t.cells = header.columns :: rows → Parts t true (some header) rows

theorem row?_zero_eq_some_iff : t.row? 0 = some names ↔ ∃ rest, t.cells = names :: rest := by
  rw [row?]
  cases t.cells with
  | nil => simp
  | cons first rest => simp

theorem exists_parts (h : headed = true → t.HasHeader) :
    ∃ header rows, t.Parts headed header rows := by
  cases headed with
  | false => exact ⟨none, t.cells, .plain⟩
  | true =>
    obtain ⟨names, hnames, hnodup⟩ := h rfl
    obtain ⟨rest, hcells⟩ := row?_zero_eq_some_iff.1 hnames
    exact ⟨some ⟨names, hnodup⟩, rest, .headed hcells⟩

theorem Parts.length_eq (h : t.Parts headed header rows) :
    rows.length = t.height - headed.toNat := by
  cases h with
  | plain => rfl
  | headed hcells => simp [height, hcells]

theorem Parts.getElem?_rows (h : t.Parts headed header rows) :
    rows[i]? = t.row? (i + headed.toNat) := by
  cases h with
  | plain => rfl
  | headed hcells =>
    rw [row?, hcells]
    rfl

theorem Parts.header_iff (h : t.Parts headed header rows) {header' : Option Header} :
    header'.map (·.columns) = (if headed then t.row? 0 else none) ↔ header' = header := by
  cases h with
  | plain => simp
  | headed hcells =>
    rw [if_pos rfl, row?, hcells, List.getElem?_cons_zero, Option.map_eq_some_iff]
    constructor
    · rintro ⟨⟨columns, hnodup⟩, rfl, rfl⟩
      rfl
    · rintro rfl
      exact ⟨_, rfl, rfl⟩

end DataTable

namespace Row

/-- Rows of data below a header, where the first of them has the number. -/
def below (header : Option Header) (first : Nat) (rows : List (List String)) : List Row :=
  rows.zipIdx.map fun (cells, i) => ⟨header, first + i, i, cells⟩

theorem getElem?_below :
    (below header first rows)[i]? = rows[i]?.map (⟨header, first + i, i, ·⟩) := by
  rw [below, List.getElem?_map, List.getElem?_zipIdx, Option.map_map, Nat.zero_add]
  rfl

end Row

theorem DataTable.Parts.getElem?_below_iff (h : t.Parts headed header rows) :
    (Row.below header (headed.toNat + 1) rows)[i]? = some r ↔
      t.DataRow headed r ∧ r.index = i := by
  rw [Row.getElem?_below, Option.map_eq_some_iff]
  have hplace : ∀ i, headed.toNat + 1 + i - 1 = i + headed.toNat := by omega
  constructor
  · rintro ⟨cells, hcells, rfl⟩
    rw [h.getElem?_rows, ← hplace] at hcells
    exact ⟨⟨hcells, rfl, h.header_iff.2 rfl⟩, rfl⟩
  · rintro ⟨⟨hcells, hnumber, hheader⟩, rfl⟩
    rw [hnumber, hplace, ← h.getElem?_rows] at hcells
    refine ⟨r.cells, hcells, ?_⟩
    rw [← hnumber, ← h.header_iff.1 hheader]

theorem DataTable.Parts.eq_of_index_eq (h : t.Parts headed header rows) (hr : t.DataRow headed r)
    (hr' : t.DataRow headed r') (hi : r.index = r'.index) : r = r' := by
  have hfound := h.getElem?_below_iff.2 ⟨hr, hi⟩
  have hfound' := h.getElem?_below_iff.2 ⟨hr', rfl⟩
  exact Option.some.inj (hfound.symm.trans hfound')

/-- There is a row of data for each place below the header. -/
theorem DataTable.Parts.lt_iff (h : t.Parts headed header rows) :
    i < t.height - headed.toNat ↔ ∃ r, t.DataRow headed r ∧ r.index = i := by
  simp only [← h.getElem?_below_iff, ← Option.ne_none_iff_exists', ne_eq, Row.getElem?_below,
    Option.map_eq_none_iff, List.getElem?_eq_none_iff, h.length_eq, Nat.not_le]

namespace RowReader

theorem readTable_eq_mapM (h : t.Parts reader.requiresHeader header rows) : reader.readTable t =
    (Row.below header (reader.requiresHeader.toNat + 1) rows).mapM reader.read := by
  rw [Row.below, List.mapM_map]
  generalize hheaded : reader.requiresHeader = headed at h
  cases h with
  | plain =>
    rw [readTable, hheaded]
    rfl
  | headed hcells =>
    rw [readTable_of_header hheaded hcells, Header.ofRow_columns]
    simp only [Header.dataRows, Except.bind, List.mapM_map]
    rfl

theorem readTable_of_cells_eq_nil (hheader : reader.requiresHeader = true)
    (hcells : t.cells = []) : reader.readTable t = .error .missingHeader := by
  rw [readTable, if_pos hheader, hcells]

theorem readTable_of_firstRepeated (hheader : reader.requiresHeader = true)
    (hnames : t.row? 0 = some names) (hrepeated : FirstRepeated names i name) :
    reader.readTable t = .error (.duplicateHeader name) := by
  obtain ⟨rest, hcells⟩ := DataTable.row?_zero_eq_some_iff.1 hnames
  have hrefused : Header.ofRow names = .error (.duplicateHeader name) :=
    Header.ofRow_eq_error_iff.2 ⟨i, name, hrepeated, rfl⟩
  rw [readTable_of_header hheader hcells, hrefused]
  rfl

/-- Where the header is refused, no row of data is read. -/
theorem parts_or_refused (reader : RowReader α) (t : DataTable) :
    (∃ header rows, t.Parts reader.requiresHeader header rows) ∨
      reader.readTable t = .error .missingHeader ∨
        ∃ name, reader.readTable t = .error (.duplicateHeader name) := by
  by_cases hparts : reader.requiresHeader = true → t.HasHeader
  · exact .inl (DataTable.exists_parts hparts)
  · obtain ⟨hheader, hnone⟩ := Classical.not_imp.1 hparts
    cases hnames : t.row? 0 with
    | none =>
      have hcells : t.cells = [] :=
        List.length_eq_zero_iff.1 (Nat.le_zero.1 (List.getElem?_eq_none_iff.1 hnames))
      exact .inr (.inl (readTable_of_cells_eq_nil hheader hcells))
    | some names =>
      have hnodup : ¬names.Nodup := fun hnodup => hnone ⟨names, hnames, hnodup⟩
      obtain ⟨i, name, hrepeated⟩ := Header.exists_firstRepeated hnodup
      exact .inr (.inr ⟨name, readTable_of_firstRepeated hheader hnames hrepeated⟩)

theorem readTable_eq_ok_iff (h : t.Parts reader.requiresHeader header rows) :
    reader.readTable t = .ok records ↔
      records.length = t.height - reader.requiresHeader.toNat ∧
        ∀ r, t.DataRow reader.requiresHeader r →
          ∃ a, records[r.index]? = some a ∧ reader.read r = .ok a := by
  rw [readTable_eq_mapM h, mapM_eq_ok_iff, Row.below, List.length_map, List.length_zipIdx,
    h.length_eq, ← Row.below]
  simp only [h.getElem?_below_iff, and_imp]
  exact and_congr_right fun _ =>
    ⟨fun hall r hr => hall r.index r hr rfl, fun hall i r hr hi => hi ▸ hall r hr⟩

theorem exists_readTable_eq_ok_iff (h : t.Parts reader.requiresHeader header rows) :
    (∃ records, reader.readTable t = .ok records) ↔
      ∀ r, t.DataRow reader.requiresHeader r → ∃ a, reader.read r = .ok a := by
  rw [readTable_eq_mapM h, exists_mapM_eq_ok_iff]
  simp only [List.mem_iff_getElem?, h.getElem?_below_iff, exists_eq_right']

/-- The row is the first of the data whose record cannot be read. -/
structure FirstFailing (reader : RowReader α) (t : DataTable) (r : Row) (e : TableError) :
    Prop where
  data : t.DataRow reader.requiresHeader r
  failed : reader.read r = .error e
  before : ∀ r', t.DataRow reader.requiresHeader r' → r'.index < r.index →
    ∃ a, reader.read r' = .ok a

theorem readTable_eq_error_iff (h : t.Parts reader.requiresHeader header rows) :
    reader.readTable t = .error e ↔ ∃ r, reader.FirstFailing t r e := by
  rw [readTable_eq_mapM h, mapM_eq_error_iff]
  simp only [h.getElem?_below_iff]
  constructor
  · rintro ⟨i, r, ⟨hr, rfl⟩, hfailed, hbefore⟩
    exact ⟨r, hr, hfailed, fun r' hr' hlt => hbefore r'.index hlt r' ⟨hr', rfl⟩⟩
  · rintro ⟨r, hr, hfailed, hbefore⟩
    exact ⟨r.index, r, ⟨hr, rfl⟩, hfailed, fun j hj r' ⟨hr', hi⟩ => hbefore r' hr' (hi ▸ hj)⟩

end RowReader

namespace Row

theorem cell_eq_error_iff :
    r.cell i = .error e ↔ r.cells[i]? = none ∧ e = .missingCell r.rowNumber i := by
  rw [cell]
  cases r.cells[i]? with
  | none => simp [eq_comm]
  | some text => simp

theorem parse_eq_error_iff : r.parse i read = .error e ↔
    (r.cells[i]? = none ∧ e = .missingCell r.rowNumber i) ∨
      ∃ text cause, r.cells[i]? = some text ∧ read text = .error cause ∧
        e = .cellParse r.rowNumber (i + 1) (r.label i) cause := by
  rw [parse, bind_eq_error_iff, cell_eq_error_iff]
  simp only [cell_eq_ok_iff]
  refine or_congr Iff.rfl (exists_congr fun text => ?_)
  cases read text with
  | error cause => simp [eq_comm]
  | ok b => simp

/-- Asked for column `i`, the row answers with the fault: by the number of the column or by its
name, for the text or for what is read from it. -/
inductive Raises (r : Row) (i : Nat) : TableError → Prop
  | cell {e : TableError} : r.cell i = .error e → r.Raises i e
  | column {name : String} {e : TableError} :
    r.position name = .ok i → r.column name = .error e → r.Raises i e
  | parse {β : Type} {read : String → Except Cause β} {e : TableError} :
    r.parse i read = .error e → r.Raises i e
  | parseColumn {β : Type} {name : String} {read : String → Except Cause β} {e : TableError} :
    r.position name = .ok i → r.parseColumn name read = .error e → r.Raises i e

theorem raises_iff : r.Raises i e ↔ (r.cells[i]? = none ∧ e = .missingCell r.rowNumber i) ∨
    ∃ text cause, r.cells[i]? = some text ∧
      e = .cellParse r.rowNumber (i + 1) (r.label i) cause := by
  have hparse : ∀ {β : Type} {read : String → Except Cause β}, r.parse i read = .error e →
      (r.cells[i]? = none ∧ e = .missingCell r.rowNumber i) ∨
        ∃ text cause, r.cells[i]? = some text ∧
          e = .cellParse r.rowNumber (i + 1) (r.label i) cause := by
    intro β read h
    refine (parse_eq_error_iff.1 h).imp_right ?_
    rintro ⟨text, cause, htext, -, he⟩
    exact ⟨text, cause, htext, he⟩
  constructor
  · intro h
    cases h with
    | cell h => exact .inl (cell_eq_error_iff.1 h)
    | column hname h =>
      rw [column, hname] at h
      exact .inl (cell_eq_error_iff.1 h)
    | parse h => exact hparse h
    | parseColumn hname h =>
      rw [parseColumn, hname] at h
      exact hparse h
  · rintro (h | ⟨text, cause, htext, rfl⟩)
    · exact .cell (cell_eq_error_iff.2 h)
    · have hread : r.parse i (fun _ => (.error cause : Except Cause Unit)) =
          .error (.cellParse r.rowNumber (i + 1) (r.label i) cause) :=
        parse_eq_error_iff.2 (.inr ⟨text, cause, htext, rfl, rfl⟩)
      exact .parse hread

theorem label_of_name (h : r.header.bind (·.column? i) = some name) :
    r.label i = " (" ++ name ++ ")" := by
  rw [label, h]

theorem label_of_none (h : r.header.bind (·.column? i) = none) : r.label i = "" := by
  rw [label, h]

theorem position_eq_ok_iff : r.position name = .ok i ↔
    ∃ header, r.header = some header ∧ header.columns[i]? = some name := by
  rw [position]
  cases r.header with
  | none => simp
  | some header => simp [Header.position_eq_ok_iff]

theorem position_eq_error (h : r.position name = .error e) :
    e = .missingHeader ∨ e = .missingColumn r.rowNumber name := by
  rw [position] at h
  split at h
  · exact .inr (Header.position_eq_error_iff.1 h).2
  · cases h
    exact .inl rfl

/-- A refused text stands in a cell of the row. -/
theorem exists_of_cellParse {rowNumber columnIndex : Nat} {label : String} {cause : Cause}
    (h : (∃ i, r.parse i read = .error (.cellParse rowNumber columnIndex label cause)) ∨
      ∃ name, r.parseColumn name read = .error (.cellParse rowNumber columnIndex label cause)) :
    ∃ i text, r.cells[i]? = some text ∧ read text = .error cause ∧ rowNumber = r.rowNumber ∧
      columnIndex = i + 1 ∧ label = r.label i := by
  obtain ⟨i, hparse⟩ :
      ∃ i, r.parse i read = .error (.cellParse rowNumber columnIndex label cause) := by
    rcases h with h | ⟨name, h⟩
    · exact h
    · rw [parseColumn] at h
      rcases bind_eq_error_iff.1 h with hname | ⟨i, -, hparse⟩
      · rcases position_eq_error hname with he | he
        · cases he
        · cases he
      · exact ⟨i, hparse⟩
  rcases parse_eq_error_iff.1 hparse with ⟨-, he⟩ | ⟨text, cause', htext, hcause, he⟩
  · cases he
  · cases he
    exact ⟨i, text, htext, hcause, rfl, rfl, rfl⟩

end Row

namespace DataTable.DataRow

variable {text : String}

theorem rowNumber_pos (h : t.DataRow headed r) : 0 < r.rowNumber := by
  rw [h.rowNumber]
  omega

theorem length_eq (h : t.DataRow headed r) : r.cells.length = t.width :=
  t.length_eq r.cells (List.mem_of_getElem? h.cells)

theorem missing_iff (h : t.DataRow headed r) : r.cells[i]? = none ↔ t.width ≤ i := by
  rw [List.getElem?_eq_none_iff, h.length_eq]

theorem lt_of_cell (h : t.DataRow headed r) (htext : r.cells[i]? = some text) : i < t.width := by
  rw [← h.length_eq]
  exact (List.getElem?_eq_some_iff.1 htext).1

theorem cell?_eq (h : t.DataRow headed r) : t.cell? (r.rowNumber - 1) i = r.cells[i]? := by
  have hcells : t.cells[r.rowNumber - 1]? = some r.cells := h.cells
  rw [cell?, hcells]
  rfl

/-- The names above a row are the cells of the first row of the table. -/
theorem name_eq (h : t.DataRow headed r) :
    r.header.bind (·.column? i) = if headed then t.cell? 0 i else none := by
  have hnames : r.header.bind (·.column? i) = (r.header.map (·.columns)).bind (·[i]?) := by
    rw [Option.bind_map]
    rfl
  rw [hnames, h.header]
  cases headed with
  | false => rfl
  | true => rfl

theorem exists_name (h : t.DataRow headed r) (hlt : i < t.width) :
    ∃ name, t.cell? 0 i = some name := by
  have hpos : 0 < t.cells.length :=
    Nat.lt_of_le_of_lt (Nat.zero_le _) (List.getElem?_eq_some_iff.1 h.cells).1
  have hnames : t.cells[0]? = some t.cells[0] := List.getElem?_eq_getElem hpos
  have hlength : t.cells[0].length = t.width := t.length_eq _ (List.getElem_mem hpos)
  rw [← hlength] at hlt
  rw [cell?, hnames]
  exact ⟨_, List.getElem?_eq_getElem hlt⟩

theorem lt_of_position (h : t.DataRow headed r) (hname : r.position name = .ok i) :
    i < t.width := by
  obtain ⟨header, hheader, hcolumn⟩ := Row.position_eq_ok_iff.1 hname
  have hfound : r.header.bind (·.column? i) = some name := by
    rw [hheader]
    exact hcolumn
  rw [h.name_eq] at hfound
  split at hfound
  · obtain ⟨names, hnames, hcell⟩ := Option.bind_eq_some_iff.1 hfound
    have hlength : names.length = t.width := t.length_eq names (List.mem_of_getElem? hnames)
    rw [← hlength]
    exact (List.getElem?_eq_some_iff.1 hcell).1
  · cases hfound

end DataTable.DataRow

/-- The fault tells where the text stands in the table, row and column counted from one, and the
name in the first row of the column if there is a header. -/
structure DataTable.Locates (t : DataTable) (headed : Bool) (rowNumber columnIndex : Nat)
    (label text : String) : Prop where
  row_pos : 0 < rowNumber
  column_pos : 0 < columnIndex
  cell : t.cell? (rowNumber - 1) (columnIndex - 1) = some text
  plain : headed = false → label = ""
  named : headed = true →
    ∃ name, t.cell? 0 (columnIndex - 1) = some name ∧ label = " (" ++ name ++ ")"

theorem DataTable.DataRow.locates {text : String} (h : t.DataRow headed r)
    (htext : r.cells[i]? = some text) :
    t.Locates headed r.rowNumber (i + 1) (r.label i) text := by
  refine ⟨h.rowNumber_pos, Nat.succ_pos i, h.cell?_eq.trans htext, ?_, ?_⟩
  · rintro rfl
    exact Row.label_of_none h.name_eq
  · rintro rfl
    obtain ⟨name, hname⟩ := h.exists_name (h.lt_of_cell htext)
    exact ⟨name, hname, Row.label_of_name (h.name_eq.trans hname)⟩

/-- The row and the column that the fault of a cell is told with. -/
def TableError.place? : TableError → Option (Nat × Nat)
  | .missingCell rowNumber columnIndex => some (rowNumber, columnIndex)
  | .cellParse rowNumber columnIndex _ _ => some (rowNumber, columnIndex)
  | _ => none

namespace RowReader

/-- The fault of a cell that a row of data is asked for tells the place of the row in the table, and
the column counted from one if there is such a cell. The column of a missing cell is counted from
zero; that happens only to cells asked for by number. -/
theorem fault_places (reader : RowReader α) (t : DataTable) :
    (∀ e, reader.readTable t = .error e → e = .missingHeader ∨ (∃ name, e = .duplicateHeader name) ∨
      ∃ r, t.DataRow reader.requiresHeader r ∧ reader.read r = .error e) ∧
    ∀ r i e, t.DataRow reader.requiresHeader r → r.Raises i e →
      (0 < r.rowNumber ∧ t.row? (r.rowNumber - 1) = some r.cells) ∧
      e.place? = some (r.rowNumber, if i < t.width then i + 1 else i) ∧
      (e = .missingCell r.rowNumber i ↔ t.width ≤ i) ∧
      ∀ name, r.position name = .ok i → i < t.width := by
  constructor
  · intro e he
    rcases reader.parts_or_refused t with ⟨header, rows, hparts⟩ | hrefused | ⟨name, hrefused⟩
    · obtain ⟨r, hr⟩ := (readTable_eq_error_iff hparts).1 he
      exact .inr (.inr ⟨r, hr.data, hr.failed⟩)
    · cases he.symm.trans hrefused
      exact .inl rfl
    · cases he.symm.trans hrefused
      exact .inr (.inl ⟨name, rfl⟩)
  · intro r i e hr he
    refine ⟨⟨hr.rowNumber_pos, hr.cells⟩, ?_, ?_, fun name hname => hr.lt_of_position hname⟩
    · rcases Row.raises_iff.1 he with ⟨hnone, rfl⟩ | ⟨text, cause, htext, rfl⟩
      · rw [if_neg (Nat.not_lt.2 (hr.missing_iff.1 hnone))]
        rfl
      · rw [if_pos (hr.lt_of_cell htext)]
        rfl
    · rw [← hr.missing_iff]
      rcases Row.raises_iff.1 he with ⟨hnone, rfl⟩ | ⟨text, cause, htext, rfl⟩
      · exact iff_of_true rfl hnone
      · simp [htext]

open Suite in
/-- In a row of two cells the third is told as the second when it is missing, and the second as the
second when its text is refused. -/
theorem fault_places_beyond : ∃ (t : DataTable) (r : Row),
    t.cells = [["item", "count"], ["cup", "many"]] ∧ t.DataRow true r ∧ r.rowNumber = 2 ∧
      (scriptReader true [.cell 2]).readTable t = .error (.missingCell 2 2) ∧
      r.Raises 2 (.missingCell 2 2) ∧ (TableError.missingCell 2 2).place? = some (2, 2) ∧
      ∃ e, r.parseColumn "count" Cell.bool = .error e ∧ e.place? = some (2, 2) := by
  let t : DataTable := ⟨[["item", "count"], ["cup", "many"]], by decide, none⟩
  let r : Row := ⟨some ⟨["item", "count"], by decide⟩, 2, 0, ["cup", "many"]⟩
  have hrow : t.DataRow true r := ⟨rfl, rfl, rfl⟩
  have hmissing : r.Raises 2 (.missingCell 2 2) := .cell rfl
  obtain ⟨-, hplaces⟩ := fault_places (scriptReader true [.cell 2]) t
  obtain ⟨e, he⟩ : ∃ e, r.parseColumn "count" Cell.bool = .error e := ⟨_, rfl⟩
  have hrefused : r.Raises 1 e := .parseColumn rfl he
  exact ⟨t, r, rfl, hrow, rfl, rfl, hmissing, (hplaces r 2 _ hrow hmissing).2.1, e, he,
    (hplaces r 1 e hrow hrefused).2.1⟩

/-- A header that is needed has to be there, with names that differ. One record is then read from
each row of data, in the order of the table, or the fault of the first row that cannot be read is
told as it is. If a text was refused, the fault tells the place of this text. -/
theorem records_in_order (reader : RowReader α) (t : DataTable) :
    (reader.requiresHeader = true →
      (t.cells = [] → reader.readTable t = .error .missingHeader) ∧
      ∀ names, t.row? 0 = some names → ¬names.Nodup →
        ∃ i name, FirstRepeated names i name ∧
          reader.readTable t = .error (.duplicateHeader name)) ∧
    ((reader.requiresHeader = true → t.HasHeader) →
      (∀ k, k < t.height - reader.requiresHeader.toNat ↔
        ∃ r, t.DataRow reader.requiresHeader r ∧ r.index = k) ∧
      (∀ r r', t.DataRow reader.requiresHeader r → t.DataRow reader.requiresHeader r' →
        r.index = r'.index → r = r') ∧
      ((∃ records, reader.readTable t = .ok records) ↔
        ∀ r, t.DataRow reader.requiresHeader r → ∃ a, reader.read r = .ok a) ∧
      (∀ records, reader.readTable t = .ok records ↔
        records.length = t.height - reader.requiresHeader.toNat ∧
          ∀ r, t.DataRow reader.requiresHeader r →
            ∃ a, records[r.index]? = some a ∧ reader.read r = .ok a) ∧
      ∀ e, reader.readTable t = .error e ↔ ∃ r, reader.FirstFailing t r e) ∧
    ∀ r rowNumber columnIndex label cause,
      reader.FirstFailing t r (.cellParse rowNumber columnIndex label cause) →
      ∀ (β : Type) (read : String → Except Cause β),
        ((∃ i, r.parse i read = .error (.cellParse rowNumber columnIndex label cause)) ∨
          ∃ name, r.parseColumn name read =
            .error (.cellParse rowNumber columnIndex label cause)) →
        ∃ text, read text = .error cause ∧
          t.Locates reader.requiresHeader rowNumber columnIndex label text := by
  refine ⟨fun hheader => ⟨readTable_of_cells_eq_nil hheader, ?_⟩, fun h => ?_, ?_⟩
  · intro names hnames hrepeated
    obtain ⟨i, name, hfirst⟩ := Header.exists_firstRepeated hrepeated
    exact ⟨i, name, hfirst, readTable_of_firstRepeated hheader hnames hfirst⟩
  · obtain ⟨header, rows, hparts⟩ := DataTable.exists_parts h
    exact ⟨fun k => hparts.lt_iff, fun r r' => hparts.eq_of_index_eq,
      exists_readTable_eq_ok_iff hparts, fun records => readTable_eq_ok_iff hparts,
      fun e => readTable_eq_error_iff hparts⟩
  · intro r rowNumber columnIndex label cause hfirst β read hread
    obtain ⟨i, text, htext, hcause, rfl, rfl, rfl⟩ := Row.exists_of_cellParse hread
    exact ⟨text, hcause, hfirst.data.locates htext⟩

open Suite in
/-- The second record cannot be read, for its number is none. -/
theorem records_in_order_many :
    ∃ (t : DataTable) (reader : RowReader (List Suite.Answer)) (cause : Cause),
      t.cells = [["item", "count"], ["cup", "4"], ["plate", "many"], ["fork", "few"]] ∧
        reader.requiresHeader = true ∧
        reader.readTable t = .error (.cellParse 3 2 " (count)" cause) ∧
        t.Locates true 3 2 " (count)" "many" := by
  let t : DataTable :=
    ⟨[["item", "count"], ["cup", "4"], ["plate", "many"], ["fork", "few"]], by decide, none⟩
  let count : String → Except Cause SuiteValue :=
    fun s => (Cell.int .u8 s).map fun n => ⟨.int .u8, n⟩
  let reader : RowReader (List Suite.Answer) :=
    scriptReader true [.column "item", .parseColumn "count" count]
  let header : Header := ⟨["item", "count"], by decide⟩
  let plate : Row := ⟨some header, 3, 1, ["plate", "many"]⟩
  have hheader : t.HasHeader := ⟨_, rfl, by decide⟩
  obtain ⟨-, hread, hplace⟩ := records_in_order reader t
  obtain ⟨-, hunique, -, -, herror⟩ := hread fun _ => hheader
  have hfirst : reader.FirstFailing t plate
      (.cellParse 3 2 " (count)" (.scalar .invalidDigit)) := by
    refine ⟨⟨rfl, rfl, rfl⟩, rfl, fun r hr hlt => ?_⟩
    have hcup : t.DataRow true ⟨some header, 2, 0, ["cup", "4"]⟩ := ⟨rfl, rfl, rfl⟩
    cases hunique r _ hr hcup (Nat.lt_one_iff.1 hlt)
    exact ⟨_, rfl⟩
  obtain ⟨text, htext, hlocates⟩ :=
    hplace plate 3 2 " (count)" _ hfirst SuiteValue count (.inr ⟨"count", rfl⟩)
  have hmany : "many" = text := Option.some.inj hlocates.cell
  exact ⟨t, reader, _, rfl, rfl, (herror _).2 ⟨plate, hfirst⟩, hmany ▸ hlocates⟩

end RowReader

end StepPhrase
