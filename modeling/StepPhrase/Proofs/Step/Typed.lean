import StepPhrase.Proofs.Registry.Typing
import StepPhrase.Proofs.Step.Created
import StepPhrase.Suite.Transform

/-! Which typed conversions of a step can meet a value of another type. -/
namespace StepPhrase

open ArgumentConversion

variable {κ : Type} [RecordKind κ]

/-- The table type that was last defined under the name makes a value of the rows, but one of
another type. -/
def MakesOther (changes : List (Change κ)) (name : String) (type : ValueType κ)
    (rows : List (List String)) : Prop :=
  ∃ t x, t.name = name ∧ DefinedLast changes t ∧ t.convert rows = .ok x ∧ t.target ≠ type

variable [DecidableEq κ] {r : Registry κ} {type : ValueType κ} {transposed : Bool} {t : DataTable}
  {name : String} {rows : List (List String)} {result : Except StepError (Value κ)} {e : StepError}

namespace Step

theorem elementOf_eq_error_iff : elementOf type result = .error e ↔ result = .error e ∨
    ∃ v, result = .ok v ∧ v.type ≠ type ∧ e = .conversionFailure (.typeMismatch type.name) := by
  refine bind_eq_error_iff.trans (or_congr_right (exists_congr fun v => ?_))
  refine and_congr_right fun _ => ?_
  rw [mapError_eq_error_iff]
  simp only [Value.get_eq_error_iff]
  constructor
  · rintro ⟨_, ⟨hne, rfl⟩, rfl⟩
    exact ⟨hne, rfl⟩
  · rintro ⟨hne, rfl⟩
    exact ⟨_, ⟨hne, rfl⟩, rfl⟩

theorem elementOf_convertBound_ne (hmade : ∀ k ∈ r.converters, k.Made) :
    elementOf type (convertBound r t type transposed) ≠
      .error (.conversionFailure (.typeMismatch name)) := by
  intro h
  rcases elementOf_eq_error_iff.1 h with h | ⟨v, hv, hne, -⟩
  · obtain ⟨e, he, heq⟩ := mapError_eq_error_iff.1 h
    cases heq
    exact Registry.convert_ne_typeMismatch hmade he
  · exact hne (Registry.type_of_convert (mapError_eq_ok_iff.1 hv))

theorem elementOf_convertNamed_iff :
    elementOf type (convertNamed r name rows).value =
        .error (.conversionFailure (.typeMismatch type.name)) ↔
      ∃ t x, r.tableType? name = some t ∧ t.convert rows = .ok x ∧ t.target ≠ type := by
  rw [elementOf_eq_error_iff, value_convertNamed]
  cases r.tableType? name with
  | none => simp
  | some t =>
    simp only [TableType.value, Option.some.injEq]
    constructor
    · rintro (h | ⟨v, h, hne, -⟩)
      · split at h
        · cases h
        · cases h
      · split at h
        · rename_i x hx
          cases h
          exact ⟨t, x, rfl, hx, hne⟩
        · cases h
    · rintro ⟨_, x, rfl, hx, hne⟩
      rw [hx]
      exact .inr ⟨_, rfl, hne, trivial⟩

end Step

namespace Session

variable {config : Option ExpressionConfig} {strictness : Strictness} {nesting : Nat}
  {built : Session κ} {changes : List (Change κ)} {step : Step κ} {pattern text : String}

theorem docStringAs_structural_ne
    (h : built.create pattern (.structural type transposed) = .ok step)
    (hmade : ∀ k ∈ r.converters, k.Made) : (step.docStringAs r type text).value ≠
      .error (.conversionFailure (.typeMismatch name)) := by
  obtain ⟨-, -, hdoc, -⟩ := create_eq_ok_iff.1 h
  rw [Step.docStringAs, hdoc]
  exact Step.elementOf_convertBound_ne hmade

theorem tableAs_structural_ne (h : built.create pattern (.structural type transposed) = .ok step)
    (hmade : ∀ k ∈ r.converters, k.Made) : (step.tableAs r type rows).value ≠
      .error (.conversionFailure (.typeMismatch name)) := by
  obtain ⟨-, -, -, htable⟩ := create_eq_ok_iff.1 h
  rw [Step.tableAs, htable, Logged.value_bind, Logged.value_pure]
  cases hrows : DataTable.ofRows rows with
  | ok t =>
    rw [value_table_structural hrows]
    exact Step.elementOf_convertBound_ne hmade
  | error e =>
    rw [ArgumentConversion.table, hrows]
    intro heq
    cases heq

theorem elementOf_convertNamed_iff_makesOther : Step.elementOf type
      (convertNamed ((start config strictness nesting).after changes).registry name rows).value =
        .error (.conversionFailure (.typeMismatch type.name)) ↔
      MakesOther changes name type rows := by
  simp only [Step.elementOf_convertNamed_iff, tableType?_eq_some_iff, and_assoc]
  rfl

theorem docStringAs_named_iff (h : built.create pattern (.named name transposed) = .ok step) :
    (step.docStringAs ((start config strictness nesting).after changes).registry type text).value =
        .error (.conversionFailure (.typeMismatch type.name)) ↔
      MakesOther changes name type [[text]] := by
  obtain ⟨-, -, hdoc, -⟩ := create_eq_ok_iff.1 h
  rw [Step.docStringAs, hdoc]
  exact elementOf_convertNamed_iff_makesOther

theorem tableAs_named_iff (h : built.create pattern (.named name transposed) = .ok step) :
    (step.tableAs ((start config strictness nesting).after changes).registry type rows).value =
        .error (.conversionFailure (.typeMismatch type.name)) ↔
      ∃ h, MakesOther changes name type
        ((⟨rows, h, none⟩ : DataTable).oriented transposed).cells := by
  obtain ⟨-, -, -, htable⟩ := create_eq_ok_iff.1 h
  rw [Step.tableAs, htable, Logged.value_bind, Logged.value_pure]
  cases hrows : DataTable.ofRows rows with
  | ok t =>
    obtain ⟨hrectangular, rfl⟩ := DataTable.ofRows_eq_ok_iff.1 hrows
    rw [value_table_named hrows, elementOf_convertNamed_iff_makesOther]
    exact ⟨fun hother => ⟨hrectangular, hother⟩, fun ⟨_, hother⟩ => hother⟩
  | error e =>
    rw [ArgumentConversion.table, hrows]
    constructor
    · intro heq
      cases heq
    · rintro ⟨hrectangular, -⟩
      cases hrows.symm.trans (DataTable.ofRows_of_rectangular hrectangular)

end Session

/-- Whatever was defined before a step was built and after it, conversions through the registry give
values of the type asked for, and a typed conversion meets one of another type just if the table
type that the step names makes it. -/
theorem conversions_typed (config : Option ExpressionConfig) (strictness : Strictness)
    (nesting : Nat) (before later : List (Change κ)) :
    let built := (Session.start config strictness nesting).after before
    let now := (built.after later).registry
    (∀ t type v, now.convert t type = .ok v → v.type = type) ∧
    (∀ t type transposed name,
      DataTable.convertTo now.convert t type transposed ≠ .error (.typeMismatch name)) ∧
    (∀ pattern type transposed step, built.create pattern (.structural type transposed) = .ok step →
      (∀ text name, (step.docStringAs now type text).value ≠
        .error (.conversionFailure (.typeMismatch name))) ∧
      ∀ rows name, (step.tableAs now type rows).value ≠
        .error (.conversionFailure (.typeMismatch name))) ∧
    ∀ pattern name transposed step, built.create pattern (.named name transposed) = .ok step →
      ∀ type, (∀ text, (step.docStringAs now type text).value =
          .error (.conversionFailure (.typeMismatch type.name)) ↔
        MakesOther (before ++ later) name type [[text]]) ∧
      ∀ rows, (step.tableAs now type rows).value =
          .error (.conversionFailure (.typeMismatch type.name)) ↔
        ∃ h, MakesOther (before ++ later) name type
          ((⟨rows, h, none⟩ : DataTable).oriented transposed).cells := by
  intro built now
  have hnow : now = ((Session.start config strictness nesting).after (before ++ later)).registry :=
    congrArg Session.registry Session.after_append.symm
  have hmade : ∀ k ∈ now.converters, k.Made := by
    rw [hnow]
    exact fun k => Session.made_of_mem
  refine ⟨fun t type v => Registry.type_of_convertThrough,
    fun t type transposed name => Registry.convertTo_ne_typeMismatch hmade,
    fun pattern type transposed step h => ⟨fun text name => ?_, fun rows name => ?_⟩,
    fun pattern name transposed step h type => ⟨fun text => ?_, fun rows => ?_⟩⟩
  · exact Session.docStringAs_structural_ne h hmade
  · exact Session.tableAs_structural_ne h hmade
  · rw [hnow]
    exact Session.docStringAs_named_iff h
  · rw [hnow]
    exact Session.tableAs_named_iff h

open Suite in
/-- A count of rows is not the text that is asked for, but it is the number that is asked for. -/
theorem conversions_typed_count : ∃ step : Step RecordType,
    (Session.start none {}).create "a step" (.named "count" false) = .ok step ∧
      let now := ((Session.start none {}).after
        [.tableType (TableTransform.count.tableType "count")]).registry
      (step.tableAs now .text [["a", "b"]]).value =
        .error (.conversionFailure (.typeMismatch "alloc::string::String")) ∧
      (step.tableAs now (.int .usize) [["a", "b"]]).value ≠
        .error (.conversionFailure (.typeMismatch "usize")) := by
  obtain ⟨e, he, -⟩ : ∃ e, (Session.start none {} : Session RecordType).compile "a step" = .ok e ∧
      e.slots.length = 0 :=
    exists_ok_of_any (by decide +kernel)
  obtain ⟨step, hcreate⟩ := Session.exists_create he (c := .named "count" false) (by simp)
  obtain ⟨-, -, -, hnamed⟩ := conversions_typed none {} 255 []
    [.tableType (TableTransform.count.tableType "count")]
  obtain ⟨-, htext⟩ := hnamed _ _ _ _ hcreate .text
  obtain ⟨-, hsize⟩ := hnamed _ _ _ _ hcreate (.int .usize)
  refine ⟨_, hcreate, (htext [["a", "b"]]).2 ⟨by decide, ?_⟩, fun hmismatch => ?_⟩
  · exact ⟨_, _, rfl, ⟨[], [], rfl, by simp⟩, rfl, by decide⟩
  · obtain ⟨-, t, x, -, hlast, -, hne⟩ := (hsize _).1 hmismatch
    cases List.mem_singleton.1 hlast.mem
    exact hne rfl

end StepPhrase
