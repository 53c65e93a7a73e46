import StepPhrase.Proofs.Step.Created
import StepPhrase.Suite.Transform

/-! Tables that steps refuse as malformed: just those with rows of different lengths, whatever
becomes of the others. -/
namespace StepPhrase

open ArgumentConversion

variable {κ : Type} [RecordKind κ] {r : Registry κ} {c : ArgumentConversion κ}
  {rows : List (List String)} {t : DataTable} {fault : TableError} {error : StepError}

namespace ArgumentConversion

theorem convertNamed_eq_error {name : String}
    (h : (convertNamed r name rows).value = .error error) :
    (∃ failure, error = .conversionFailure failure) ∨
      r.tableType? name = none ∧ error = .undefinedTableType name := by
  rw [value_convertNamed] at h
  cases ht : r.tableType? name with
  | none =>
    rw [ht] at h
    cases h
    exact .inr ⟨rfl, rfl⟩
  | some t =>
    rw [ht] at h
    obtain ⟨failure, -, rfl⟩ := mapError_eq_error_iff.1 h
    exact .inl ⟨failure, rfl⟩

variable [DecidableEq κ]

/-- Whatever goes wrong with a table is a failure of the conversion, if the conversion is found. -/
theorem table_eq_error (hrows : DataTable.ofRows rows = .ok t)
    (h : (c.table r rows).value = .error error) :
    (∃ failure, error = .conversionFailure failure) ∨
      ∃ name transposed, c = .named name transposed ∧ r.tableType? name = none ∧
        error = .undefinedTableType name := by
  cases c with
  | identity =>
    rw [table, hrows] at h
    cases h
  | structural type transposed =>
    rw [value_table_structural hrows] at h
    obtain ⟨failure, -, rfl⟩ := mapError_eq_error_iff.1 h
    exact .inl ⟨failure, rfl⟩
  | named name transposed =>
    rw [value_table_named hrows] at h
    refine (convertNamed_eq_error h).imp_right ?_
    rintro ⟨hnone, rfl⟩
    exact ⟨name, transposed, rfl, hnone, rfl⟩

theorem table_eq_malformed_iff :
    (c.table r rows).value = .error (.malformedTable fault) ↔ unevenRow? rows = some fault := by
  rw [← DataTable.ofRows_eq_error_iff]
  cases hrows : DataTable.ofRows rows with
  | error e =>
    rw [table_of_error hrows]
    simp
  | ok t =>
    simp only [reduceCtorEq, iff_false]
    intro h
    rcases table_eq_error hrows h with ⟨failure, he⟩ | ⟨name, transposed, -, -, he⟩
    · cases he
    · cases he

end ArgumentConversion

variable [DecidableEq κ] {s : Session κ} {step : Step κ} {pattern : String}

/-- A step calls a table malformed just if its rows differ in length, and then it names the first
row that differs from row 1, counted from one, whatever else could be wrong. All that goes wrong
with rows of one length is a failure of their conversion, or that it is not defined. -/
theorem malformed_iff_uneven (h : s.create pattern c = .ok step) (r : Registry κ)
    (rows : List (List String)) :
    (∀ fault, (step.table r rows).value = .error (.malformedTable fault) ↔
      ∃ i expected actual, FirstUneven rows i expected actual ∧
        fault = .unevenRow (i + 1) expected actual) ∧
    ((∃ fault, (step.table r rows).value = .error (.malformedTable fault)) ↔
      ¬∃ n, ∀ row ∈ rows, row.length = n) ∧
    (∀ fault, (step.table r rows).value = .error (.malformedTable fault) →
      (step.table r rows).log = []) ∧
    ∀ n, (∀ row ∈ rows, row.length = n) → ∀ error, (step.table r rows).value = .error error →
      (∃ failure, error = .conversionFailure failure) ∨
        ∃ name transposed, c = .named name transposed ∧ r.tableType? name = none ∧
          error = .undefinedTableType name := by
  obtain ⟨-, -, -, htable⟩ := Session.create_eq_ok_iff.1 h
  rw [htable]
  refine ⟨fun fault => ?_, ?_, fun fault hfault => ?_, fun n hrows error herror => ?_⟩
  · rw [table_eq_malformed_iff, unevenRow?_eq_some_iff]
  · simp only [table_eq_malformed_iff]
    exact exists_unevenRow?_iff
  · have hrows := DataTable.ofRows_eq_error_iff.2 (table_eq_malformed_iff.1 hfault)
    rw [table_of_error hrows]
    rfl
  · exact table_eq_error (DataTable.ofRows_of_rectangular (rectangular_iff.1 ⟨n, hrows⟩)) herror

/-- A table type that refuses every table as if its third row were uneven. -/
def Suite.ragged : TableType Suite.RecordType :=
  ⟨"ragged", .text, fun _ => .error (.table (.unevenRow 3 2 1))⟩

open Suite in
/-- The same fault is told of the table where the rows differ in length, though the name is not even
defined, and of the conversion where they do not. -/
theorem malformed_iff_uneven_ragged : ∃ step : Step RecordType,
    (Session.start none {}).create "a step" (.named "ragged" true) = .ok step ∧
      (step.table (Session.start none {}).registry [["a", "b"], ["c", "d"], ["e"]]).value =
        .error (.malformedTable (.unevenRow 3 2 1)) ∧
      let now := ((Session.start none {}).after [.tableType ragged]).registry
      (step.table now [["a", "b"]]).value =
          .error (.conversionFailure (.transform "ragged" (.table (.unevenRow 3 2 1)))) ∧
        ∀ fault, (step.table now [["a", "b"]]).value ≠ .error (.malformedTable fault) := by
  obtain ⟨step, hcreate⟩ := exists_create (c := .named "ragged" true) (by simp)
  obtain ⟨-, -, -, htable⟩ := Session.create_eq_ok_iff.1 hcreate
  refine ⟨step, hcreate, ?_, ?_, fun fault hfault => ?_⟩
  · obtain ⟨hmalformed, -⟩ := malformed_iff_uneven hcreate (Session.start none {}).registry
      [["a", "b"], ["c", "d"], ["e"]]
    refine (hmalformed _).2 ⟨2, 2, 1, ⟨rfl, rfl, by decide, ?_⟩, rfl⟩
    rintro (_ | _ | j) hj row hrow
    · cases hrow
      rfl
    · cases hrow
      rfl
    · omega
  · rw [htable]
    rfl
  · obtain ⟨-, hexists, -⟩ := malformed_iff_uneven hcreate
      ((Session.start none {}).after [.tableType ragged]).registry [["a", "b"]]
    exact hexists.1 ⟨fault, hfault⟩ ⟨2, by decide⟩

end StepPhrase
