import StepPhrase.Proofs.Except
import StepPhrase.Proofs.Registry.History
import StepPhrase.Proofs.Table.Rows
import StepPhrase.Step.Create
import StepPhrase.Suite.Record

/-! What a step is made of, and what its conversions come down to. -/
namespace StepPhrase

variable {κ : Type} [RecordKind κ] {rows : List (List String)} {t : DataTable}

namespace ArgumentConversion

variable {r : Registry κ} {name : String}

theorem value_convertNamed : (convertNamed r name rows).value =
    match r.tableType? name with
    | none => .error (.undefinedTableType name)
    | some t => (t.value rows).mapError .conversionFailure := by
  unfold convertNamed resolve
  cases r.tableType? name with
  | none => rfl
  | some t => rfl

variable [DecidableEq κ] {transposed : Bool} {type : ValueType κ}

/-- Rows that make no table are refused before anything else is looked at. -/
theorem table_of_error {c : ArgumentConversion κ} {fault : TableError}
    (h : DataTable.ofRows rows = .error fault) :
    c.table r rows = pure (.error (.malformedTable fault)) := by
  rw [table, h]

theorem value_table_named (h : DataTable.ofRows rows = .ok t) :
    ((named name transposed).table r rows).value =
      (convertNamed r name (t.oriented transposed).cells).value := by
  rw [table, h]

theorem value_table_structural (h : DataTable.ofRows rows = .ok t) :
    ((structural type transposed).table r rows).value = convertBound r t type transposed := by
  rw [table, h]
  rfl

end ArgumentConversion

variable [DecidableEq κ] {s : Session κ} {step : Step κ} {pattern : String}
  {c : ArgumentConversion κ}

namespace Session

/-- The step of a pattern as things stand. -/
def create (s : Session κ) (pattern : String) (c : ArgumentConversion κ) :
    Except StepError (Step κ) :=
  (Step.create s.registry s.strictness pattern c).value

/-- The expression of a pattern as things stand. -/
def compile (s : Session κ) (pattern : String) : Except PatternError (Expression κ) :=
  (Expression.compile s.registry.parameterTypes s.config pattern).value

/-- A step has the expression of the moment when it was built, and the conversions asked for. -/
theorem create_eq_ok_iff : s.create pattern c = .ok step ↔
    (∀ transposed, c ≠ .named "" transposed) ∧ s.compile pattern = .ok step.expression ∧
      step.docString = c.docString ∧ step.table = c.table := by
  unfold create Step.create
  split
  · rename_i transposed
    simp
  · rename_i hname
    have hnamed : ∀ transposed, c ≠ .named "" transposed := hname
    have hcompile : (s.registry.compile s.strictness pattern).value = s.compile pattern := rfl
    simp only [Bool.false_eq_true, if_false, Logged.value_bind, hcompile]
    cases s.compile pattern with
    | error e => simp
    | ok expression =>
      simp only [Logged.value_bind, Logged.value_pure, Except.ok.injEq]
      constructor
      · rintro rfl
        exact ⟨hnamed, rfl, rfl, rfl⟩
      · rintro ⟨-, rfl, hdoc, htable⟩
        rw [← hdoc, ← htable]

/-- The conversion of arguments has no part in the expression of a step. -/
theorem map_expression_create (hname : ∀ transposed, c ≠ .named "" transposed) :
    (s.create pattern c).map (·.expression) =
      (s.compile pattern).mapError .malformedExpression := by
  unfold create Step.create
  split
  · rename_i transposed
    exact absurd rfl (hname transposed)
  · have hcompile : (s.registry.compile s.strictness pattern).value = s.compile pattern := rfl
    simp only [Bool.false_eq_true, if_false, Logged.value_bind, hcompile]
    cases s.compile pattern with
    | error e => rfl
    | ok expression => rfl

theorem exists_create {e : Expression κ} (h : s.compile pattern = .ok e)
    (hname : ∀ transposed, c ≠ .named "" transposed) : ∃ step, s.create pattern c = .ok step :=
  ⟨⟨e, c.docString, c.table⟩, create_eq_ok_iff.2 ⟨hname, h, rfl, rfl⟩⟩

end Session

namespace Suite

variable {c : ArgumentConversion RecordType}

/-- A step without placeholders can be built for any conversion, before anything is defined. -/
theorem exists_create (hname : ∀ transposed, c ≠ .named "" transposed) :
    ∃ step, (Session.start none {}).create "a step" c = .ok step := by
  obtain ⟨e, he, -⟩ : ∃ e, (Session.start none {} : Session RecordType).compile "a step" = .ok e ∧
      e.slots.length = 0 :=
    exists_ok_of_any (by decide +kernel)
  exact Session.exists_create he hname

end Suite

end StepPhrase
