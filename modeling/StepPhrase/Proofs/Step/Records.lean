import StepPhrase.Proofs.Step.Malformed
import StepPhrase.Proofs.Step.Structural
import StepPhrase.Proofs.Table.Reading

/-! Records by name and records by type: two ways to the rows of a table that read them alike and
fail alike. -/
namespace StepPhrase

open ArgumentConversion

variable {κ : Type} [RecordKind κ] {k : κ} {name : String} {t : DataTable}
  {rows : List (List String)} {transposed : Bool}

theorem TableType.value_records : (records name k).value rows =
    (((DataTable.ofRows rows).bind (RecordKind.reader k).readTable).map (⟨.rows k, ·⟩)).mapError
      (.transform name <| .table ·) := by
  have hconvert : (records name k).convert rows =
      ((DataTable.ofRows rows).bind (RecordKind.reader k).readTable).mapError .table := rfl
  rw [value, hconvert]
  cases (DataTable.ofRows rows).bind (RecordKind.reader k).readTable with
  | error e => rfl
  | ok xs => rfl

theorem ArgumentConversion.value_convertNamed_records {r : Registry κ}
    (h : r.tableType? name = some (.records name k)) :
    (convertNamed r name t.cells).value =
      (((RecordKind.reader k).readTable t).map (⟨.rows k, ·⟩)).mapError
        (.conversionFailure <| .transform name <| .table ·) := by
  have hread : (RecordKind.reader k).readTable ⟨t.cells, t.length_eq, none⟩ =
      (RecordKind.reader k).readTable t := RowReader.readTable_congr rfl
  rw [value_convertNamed, h]
  change ((TableType.records name k).value t.cells).mapError _ = _
  rw [TableType.value_records, DataTable.ofRows_cells, Except.bind, hread]
  exact mapError_mapError

/-- Of the changes to the converter to the records of this kind, the last one brings their own
reader. -/
def RecordsLast (changes : List (Change κ)) (k : κ) : Prop :=
  ∃ before after, changes = before ++ .records k :: after ∧
    ∀ c ∈ after, c.target? ≠ some (.rows k)

/-- What comes of rows by name and by type, given what comes of reading them: the same records in
the same order, or failures with one cause. -/
inductive ReadAlike (name : String) (k : κ) : Except TableError (List (RecordKind.Record k)) →
    Except StepError (Value κ) → Except StepError (Value κ) → Prop
  | records (xs : List (RecordKind.Record k)) :
    ReadAlike name k (.ok xs) (.ok ⟨.rows k, xs⟩) (.ok ⟨.rows k, xs⟩)
  | failure (e : TableError) : ReadAlike name k (.error e)
      (.error (.conversionFailure (.transform name (.table e))))
      (.error (.conversionFailure (.table e)))

namespace ReadAlike

variable {x y : Except StepError (Value κ)}

theorem of_ok {xs : List (RecordKind.Record k)} (h : ReadAlike name k (.ok xs) x y) :
    x = .ok ⟨.rows k, xs⟩ ∧ y = .ok ⟨.rows k, xs⟩ := by
  cases h
  exact ⟨rfl, rfl⟩

theorem of_error {e : TableError} (h : ReadAlike name k (.error e) x y) :
    x = .error (.conversionFailure (.transform name (.table e))) ∧
      y = .error (.conversionFailure (.table e)) := by
  cases h
  exact ⟨rfl, rfl⟩

end ReadAlike

variable [DecidableEq κ] {r : Registry κ} {s : Session κ} {changes : List (Change κ)}

theorem RecordsLast.converter? (h : RecordsLast changes k) :
    (s.after changes).registry.converter? (.rows k) = some (.ofRecords k) := by
  obtain ⟨before, after, rfl, hafter⟩ := h
  rw [Session.after_append]
  have hkept := Session.converter?_after_of_ne (s := (s.after before).apply (.records k)) hafter
  exact hkept.trans (Registry.converter?_defineConverter.trans (if_pos rfl))

theorem Registry.convert_records (h : r.converter? (.rows k) = some (.ofRecords k)) :
    r.convert t (.rows k) =
      (((RecordKind.reader k).readTable t).map (⟨.rows k, ·⟩)).mapError .table := by
  rw [convert_of_converter? h]
  exact map_mapError

namespace ArgumentConversion

theorem convertBound_records (h : r.converter? (.rows k) = some (.ofRecords k)) :
    convertBound r t (.rows k) transposed =
      (((RecordKind.reader k).readTable (t.oriented transposed)).map (⟨.rows k, ·⟩)).mapError
        (.conversionFailure <| .table ·) := by
  have hread : (RecordKind.reader k).readTable (t.bind.oriented transposed) =
      (RecordKind.reader k).readTable (t.oriented transposed) :=
    RowReader.readTable_congr (DataTable.cells_oriented rfl)
  change (r.convert (t.bind.oriented transposed) (.rows k)).mapError _ = _
  rw [Registry.convert_records h, hread]
  exact mapError_mapError

theorem readAlike (hname : r.tableType? name = some (.records name k))
    (htype : r.converter? (.rows k) = some (.ofRecords k)) :
    ReadAlike name k ((RecordKind.reader k).readTable (t.oriented transposed))
      ((named name transposed).table r t.cells).value
      ((structural (.rows k) transposed).table r t.cells).value := by
  have hcells : t.cells = (⟨t.cells, t.length_eq, none⟩ : DataTable).cells := rfl
  rw [value_table_named DataTable.ofRows_cells, value_table_structural DataTable.ofRows_cells,
    value_convertNamed_records hname, convertBound_records htype,
    RowReader.readTable_congr (DataTable.cells_oriented hcells)]
  cases (RecordKind.reader k).readTable
      ((⟨t.cells, t.length_eq, none⟩ : DataTable).oriented transposed) with
  | error e => exact .failure e
  | ok xs => exact .records xs

end ArgumentConversion

variable {built built' : Session κ} {pattern pattern' : String} {byName byType : Step κ}
  {config : Option ExpressionConfig} {strictness : Strictness} {nesting : Nat}

/-- While a name stands for the records of a kind, and they are converted by their own reader, the
step for the name and the step for the type read every table alike, transposed or not. Uneven rows
are malformed for both, and a failure for the table type itself. -/
theorem records_by_name_and_type
    (hbyName : built.create pattern (.named name transposed) = .ok byName)
    (hbyType : built'.create pattern' (.structural (.rows k) transposed) = .ok byType)
    (hname : DefinedLast changes (.records name k)) (htype : RecordsLast changes k) :
    let now := ((Session.start config strictness nesting).after changes).registry
    (∀ t : DataTable, ReadAlike name k ((RecordKind.reader k).readTable (t.oriented transposed))
      (byName.table now t.cells).value (byType.table now t.cells).value) ∧
    ∀ rows : List (List String), (¬∃ n, ∀ row ∈ rows, row.length = n) →
      ∃ i expected actual, FirstUneven rows i expected actual ∧
        let fault := .unevenRow (i + 1) expected actual
        (byName.table now rows).value = .error (.malformedTable fault) ∧
        (byType.table now rows).value = .error (.malformedTable fault) ∧
        ∃ handle, now.tableType? name = some handle ∧
          handle.value rows = .error (.transform name (.table fault)) := by
  intro now
  obtain ⟨-, -, -, hnamed⟩ := Session.create_eq_ok_iff.1 hbyName
  obtain ⟨-, -, -, hstructural⟩ := Session.create_eq_ok_iff.1 hbyType
  have hhandle : now.tableType? name = some (.records name k) :=
    Session.tableType?_eq_some_iff.2 ⟨rfl, hname⟩
  have hconverter : now.converter? (.rows k) = some (.ofRecords k) := htype.converter?
  rw [hnamed, hstructural]
  refine ⟨fun t => readAlike hhandle hconverter, fun rows hrows => ?_⟩
  obtain ⟨e, he⟩ := exists_unevenRow?_iff.2 hrows
  obtain ⟨i, expected, actual, huneven, rfl⟩ := unevenRow?_eq_some_iff.1 he
  refine ⟨i, expected, actual, huneven, ?_, ?_, _, hhandle, ?_⟩
  · exact table_eq_malformed_iff.2 he
  · exact table_eq_malformed_iff.2 he
  · rw [TableType.value_records, DataTable.ofRows_eq_error_iff.2 he]
    rfl

/-- The name first stood for another table type, and persons were first refused. -/
def Suite.peopleDefined : List (Change Suite.RecordType) :=
  [.tableType (TableTransform.joined.tableType "People"),
    .converter (.rows .person) fun _ _ => .error (.reason "refused"),
    .records .person, .tableType (.records "People" .person)]

open Suite in
/-- Columns are read as persons, or refused for their header, and uneven rows are malformed. -/
theorem records_by_name_and_type_people : ∃ byName byType : Step RecordType,
    (Session.start none {}).create "a step" (.named "People" true) = .ok byName ∧
      (Session.start none {}).create "a step" (.structural (.rows .person) true) = .ok byType ∧
      DefinedLast peopleDefined (.records "People" .person) ∧ RecordsLast peopleDefined .person ∧
      let now := ((Session.start none {}).after peopleDefined).registry
      let people : List Person := [⟨"Ann", .ofNat .u32 30⟩, ⟨"Bo", .ofNat .u32 4⟩]
      ((byName.table now [["name", "Ann", "Bo"], ["age", "30", "4"]]).value =
          .ok ⟨.rows .person, people⟩ ∧
        (byType.table now [["name", "Ann", "Bo"], ["age", "30", "4"]]).value =
          .ok ⟨.rows .person, people⟩) ∧
      ((byName.table now [["name", "Ann"], ["name", "30"]]).value =
          .error (.conversionFailure (.transform "People" (.table (.duplicateHeader "name")))) ∧
        (byType.table now [["name", "Ann"], ["name", "30"]]).value =
          .error (.conversionFailure (.table (.duplicateHeader "name")))) ∧
      ∃ fault, (byName.table now [["name", "Ann"], ["age"]]).value =
        .error (.malformedTable fault) := by
  obtain ⟨byName, hbyName⟩ := exists_create (c := .named "People" true) (by simp)
  obtain ⟨byType, hbyType⟩ := exists_create (c := .structural (.rows .person) true) (by simp)
  have hname : DefinedLast peopleDefined (.records "People" .person) :=
    ⟨[_, _, _], [], rfl, by simp⟩
  have htype : RecordsLast peopleDefined .person := ⟨[_, _], [_], rfl, by simp [Change.target?]⟩
  obtain ⟨halike, huneven⟩ := records_by_name_and_type hbyName hbyType hname htype
  refine ⟨_, _, hbyName, hbyType, hname, htype, ?_, ?_, ?_⟩
  · exact (halike ⟨[["name", "Ann", "Bo"], ["age", "30", "4"]], by decide, none⟩).of_ok
  · exact (halike ⟨[["name", "Ann"], ["name", "30"]], by decide, none⟩).of_error
  · obtain ⟨_, _, _, -, hmalformed, -⟩ := huneven [["name", "Ann"], ["age"]] (by
      rw [rectangular_iff]
      decide)
    exact ⟨_, hmalformed⟩

end StepPhrase
