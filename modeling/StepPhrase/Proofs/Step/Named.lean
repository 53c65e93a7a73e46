import StepPhrase.Proofs.Step.Run
import StepPhrase.Suite.Transform

/-! Steps whose arguments are converted by name: they keep their expression, but follow what is
defined under the name. -/
namespace StepPhrase

open ArgumentConversion

variable {κ : Type} [RecordKind κ] {changes : List (Change κ)} {name pattern : String}
  {rows : List (List String)} {config : Option ExpressionConfig} {strictness : Strictness}
  {nesting : Nat} {transposed : Bool}

/-- The rows are converted by the table type that was last defined under the name. -/
structure Governed (changes : List (Change κ)) (name : String) (rows : List (List String))
    (result : Except StepError (Value κ)) : Prop where
  applied : ∀ t, t.name = name → DefinedLast changes t →
    result = (t.value rows).mapError .conversionFailure
  undefined_iff : result = .error (.undefinedTableType name) ↔
    ∀ t, .tableType t ∈ changes → t.name ≠ name

/-- The answer of a step with the expression whose arguments are converted by name, after these
changes from the very first on. -/
inductive Due (expression : Expression κ) (name : String) (transposed : Bool)
    (changes : List (Change κ)) : Request κ → Answer κ → Prop
  | change {c : Change κ} : Due expression name transposed changes (.change c) .changed
  | text {text : String} : Due expression name transposed changes (.text text) (.arguments
      ((expression.match? text).mapError fun e => .conversionFailure (.parameter e)))
  | docString {text : String} {result : Except StepError (Value κ)} :
    Governed changes name [[text]] result →
      Due expression name transposed changes (.docString text) (.value result)
  | table {rows : List (List String)} {result : Except StepError (Value κ)}
    (h : ∀ row ∈ rows, row.length = widthOf rows) :
    Governed changes name ((⟨rows, h, none⟩ : DataTable).oriented transposed).cells result →
      Due expression name transposed changes (.table rows) (.value result)
  | unevenTable {rows : List (List String)} {e : TableError} : unevenRow? rows = some e →
    Due expression name transposed changes (.table rows) (.value (.error (.malformedTable e)))

variable [DecidableEq κ]

theorem governed_convertNamed : Governed changes name rows (convertNamed
    ((Session.start config strictness nesting).after changes).registry name rows).value := by
  rw [value_convertNamed]
  constructor
  · intro t hname ht
    rw [Session.tableType?_eq_some_iff.2 ⟨hname, ht⟩]
  · have hnone :
        ((Session.start config strictness nesting).after changes).registry.tableType? name = none ↔
          ∀ t, .tableType t ∈ changes → t.name ≠ name := Session.tableType?_eq_none_iff
    rw [← hnone]
    cases ((Session.start config strictness nesting).after changes).registry.tableType? name with
    | none => simp
    | some t => simp [mapError_eq_error_iff]

theorem due_answer {before : List (Change κ)} {step : Step κ}
    (h : ((Session.start config strictness nesting).after before).create pattern
      (.named name transposed) = .ok step) (r : Request κ) :
    Due step.expression name transposed changes r
      (((Session.start config strictness nesting).after changes).answer step r) := by
  obtain ⟨-, -, hdoc, htable⟩ := Session.create_eq_ok_iff.1 h
  cases r with
  | change c => exact .change
  | text text => exact .text
  | docString text =>
    rw [Session.answer, hdoc]
    exact .docString governed_convertNamed
  | table rows =>
    rw [Session.answer, htable]
    cases hrows : DataTable.ofRows rows with
    | ok t =>
      obtain ⟨hrectangular, rfl⟩ := DataTable.ofRows_eq_ok_iff.1 hrows
      rw [value_table_named hrows]
      exact .table hrectangular governed_convertNamed
    | error e =>
      rw [ArgumentConversion.table, hrows]
      exact .unevenTable (DataTable.ofRows_eq_error_iff.1 hrows)

/-- In a run of any changes and uses, a step that converts by name matches texts as the expression
that was compiled when it was built, and converts by the table type that the name stands for at each
use. -/
theorem due_of_named {before : List (Change κ)} {step : Step κ}
    (h : ((Session.start config strictness nesting).after before).create pattern
      (.named name transposed) = .ok step) :
    ∃ expression,
      ((Session.start config strictness nesting).after before).compile pattern = .ok expression ∧
      ∀ past r later, ∃ answer,
        (((Session.start config strictness nesting).after before).answers step
          (past ++ r :: later))[past.length]? = some answer ∧
        Due expression name transposed (before ++ Request.changes past) r answer := by
  obtain ⟨-, hexpression, -, -⟩ := Session.create_eq_ok_iff.1 h
  refine ⟨step.expression, hexpression, fun past r later => ⟨_, Session.answers_append_cons, ?_⟩⟩
  rw [← Session.after_append]
  exact due_answer h r

namespace Suite

/-- Before anything else is asked for, there is one table type, of another name. -/
def beforeSummary : Session RecordType :=
  (Session.start none {}).after [.tableType (TableTransform.joined.tableType "other")]

/-- Uses of a step before and after what it names is defined, and defined again. -/
def summaryRequests : List (Request RecordType) :=
  [.docString "a", .change (.tableType (TableTransform.cells.tableType "Summary")),
    .change (.parameterType { ParameterType.word with name := "Money" }),
    .change (.forced (some true)), .text "5 EUR left", .docString "a",
    .change (.tableType (TableTransform.count.tableType "Summary")), .table [["x", "y", "z"]]]

end Suite

open Suite in
/-- The name counts as it is defined at each use, but the hint as it was when the step was built. -/
theorem due_of_named_summary : ∃ (step : Step RecordType) (answers : List (Answer RecordType)),
    beforeSummary.create "\x7bn:Money\x7d left" (.named "Summary" true) = .ok step ∧
      beforeSummary.answers step summaryRequests = answers ∧
      answers[0]? = some (.value (.error (.undefinedTableType "Summary"))) ∧
      (∃ arguments, answers[4]? = some (.arguments (.ok (some arguments))) ∧
        arguments.map (·.text) = ["5 EUR"]) ∧
      answers[5]? = some (.value (.ok ⟨.list (.list .text), [["a"]]⟩)) ∧
      answers[7]? = some (.value (.ok ⟨.int .usize, sizeOf 3⟩)) := by
  obtain ⟨e, he, hmatch⟩ : ∃ e, beforeSummary.compile "\x7bn:Money\x7d left" = .ok e ∧
      (e.match? "5 EUR left").toOption.any (·.map (·.map (·.text)) = some ["5 EUR"]) = true :=
    exists_ok_of_any (by decide +kernel)
  obtain ⟨found, hfound, htexts⟩ := exists_ok_of_any hmatch
  obtain ⟨arguments, rfl, hcaptured⟩ := Option.map_eq_some_iff.1 htexts
  obtain ⟨step, hcreate⟩ := Session.exists_create he (c := .named "Summary" true) (by simp)
  obtain ⟨e', he', hdue⟩ := due_of_named hcreate
  cases he.symm.trans he'
  refine ⟨_, _, hcreate, rfl, ?_, ?_, ?_, ?_⟩
  · obtain ⟨answer, hanswer, h⟩ := hdue [] (.docString "a") (summaryRequests.drop 1)
    cases h with
    | docString h =>
      have hnone : ∀ t,
          Change.tableType t ∈ [.tableType (TableTransform.joined.tableType "other")] →
            t.name ≠ "Summary" := by
        intro t ht
        cases List.mem_singleton.1 ht
        decide
      rw [h.undefined_iff.2 hnone] at hanswer
      exact hanswer
  · obtain ⟨answer, hanswer, h⟩ := hdue (summaryRequests.take 4) (.text "5 EUR left")
      (summaryRequests.drop 5)
    cases h with
    | text =>
      rw [hfound] at hanswer
      exact ⟨arguments, hanswer, hcaptured⟩
  · obtain ⟨answer, hanswer, h⟩ := hdue (summaryRequests.take 5) (.docString "a")
      (summaryRequests.drop 6)
    cases h with
    | docString h =>
      rw [h.applied (TableTransform.cells.tableType "Summary") rfl
        ⟨[_], [_, _], rfl, by simp⟩] at hanswer
      exact hanswer
  · obtain ⟨answer, hanswer, h⟩ := hdue (summaryRequests.take 7) (.table [["x", "y", "z"]]) []
    cases h with
    | table hrectangular h =>
      rw [h.applied (TableTransform.count.tableType "Summary") rfl
        ⟨[_, _, _, _], [], rfl, by simp⟩] at hanswer
      exact hanswer
    | unevenTable h => cases h

end StepPhrase
