import StepPhrase.Proofs.Registry.Conversion
import StepPhrase.Proofs.Step.Run
import StepPhrase.Suite.Transform

/-! Steps whose arguments are converted to a type: what later definitions change for them. -/
namespace StepPhrase

open ArgumentConversion

variable {κ : Type} [RecordKind κ] [DecidableEq κ] {r r' : Registry κ} {s : Session κ}
  {types : ValueType κ → Prop} {type : ValueType κ} {depth : Nat} {t : DataTable}
  {transposed : Bool} {step : Step κ} {pattern text : String} {rows : List (List String)}
  {changes : List (Change κ)} {request : Request κ}

namespace Registry

/-- Converters to these types call for conversions to these types only. -/
def Closed (r : Registry κ) (types : ValueType κ → Prop) : Prop :=
  ∀ type k, types type → r.converter? type = some k → ∀ f g : Conversions κ,
    (∀ t type', types type' → f t type' = g t type') → k.run f = k.run g

/-- What a converter calls for matters only as far as the calls go to these types. -/
theorem convertThrough_congr {inner inner' : Conversions κ} (hclosed : r.Closed types)
    (hsame : r'.converter? type = r.converter? type) (htype : types type)
    (hinner : ∀ t type, types type → inner' t type = inner t type) :
    r'.convertThrough inner' t type = r.convertThrough inner t type := by
  unfold convertThrough
  rw [hsame]
  cases hk : r.converter? type with
  | none => rfl
  | some k =>
    have hrun : k.run inner' = k.run inner := hclosed type k htype hk _ _ hinner
    simp only [hrun]

/-- Where two registries have the same converters to types that are closed, they convert alike to
these types, however deep the converters call for each other. -/
theorem convertWithin_congr (hclosed : r.Closed types)
    (hsame : ∀ type, types type → r'.converter? type = r.converter? type) (htype : types type) :
    r'.convertWithin depth t type = r.convertWithin depth t type := by
  induction depth generalizing t type with
  | zero => rfl
  | succ depth ih =>
    exact convertThrough_congr hclosed (hsame type htype) htype fun t type htype => ih htype

theorem convert_congr (hclosed : r.Closed types)
    (hsame : ∀ type, types type → r'.converter? type = r.converter? type)
    (hnesting : r'.nesting = r.nesting) (htype : types type) :
    r'.convert t type = r.convert t type := by
  change r'.convertWithin (r'.nesting + 1) t type = r.convertWithin (r.nesting + 1) t type
  rw [hnesting]
  exact convertWithin_congr hclosed hsame htype

end Registry

theorem ArgumentConversion.convertBound_congr (hclosed : r.Closed types)
    (hsame : ∀ type, types type → r'.converter? type = r.converter? type)
    (hnesting : r'.nesting = r.nesting) (htype : types type) :
    convertBound r' t type transposed = convertBound r t type transposed := by
  unfold convertBound DataTable.convert
  rw [Registry.convert_congr hclosed hsame hnesting htype]

namespace Session

theorem answer_structural_congr {s' built : Session κ}
    (h : built.create pattern (.structural type transposed) = .ok step)
    (hclosed : s.registry.Closed types) (htype : types type)
    (hsame : ∀ type, types type → s'.registry.converter? type = s.registry.converter? type)
    (hnesting : s'.registry.nesting = s.registry.nesting) :
    s'.answer step request = s.answer step request := by
  obtain ⟨-, -, hdoc, htable⟩ := create_eq_ok_iff.1 h
  have hbound : ∀ t, convertBound s'.registry t type transposed =
      convertBound s.registry t type transposed := fun t =>
    convertBound_congr hclosed hsame hnesting htype
  cases request with
  | change c => rfl
  | text text => rfl
  | docString text =>
    simp only [answer, hdoc, docString, hbound]
  | table rows =>
    simp only [answer, htable, table, hbound]

theorem answer_structural_refused {built : Session κ}
    (h : built.create pattern (.structural type transposed) = .ok step) (cause : Cause) :
    (∀ text, (s.after [.converter type fun _ _ => .error cause]).answer step (.docString text) =
      .value (.error (.conversionFailure (.transform type.name cause)))) ∧
    ∀ rows, (∀ row ∈ rows, row.length = widthOf rows) →
      (s.after [.converter type fun _ _ => .error cause]).answer step (.table rows) =
        .value (.error (.conversionFailure (.transform type.name cause))) := by
  obtain ⟨-, -, hdoc, htable⟩ := create_eq_ok_iff.1 h
  have hconverter : (s.after [.converter type fun _ _ => .error cause]).registry.converter? type =
      some (.ofTransform type fun _ _ => .error cause) :=
    Registry.converter?_defineConverter.trans (if_pos rfl)
  have hbound : ∀ t,
      convertBound (s.after [.converter type fun _ _ => .error cause]).registry t type transposed =
        .error (.conversionFailure (.transform type.name cause)) := by
    intro t
    unfold convertBound DataTable.convert
    rw [Registry.convert_of_converter? hconverter]
    rfl
  constructor
  · intro text
    simp only [answer, hdoc, docString, hbound]
    rfl
  · intro rows hrows
    simp only [answer, htable, table, DataTable.ofRows_of_rectangular hrows, hbound]
    rfl

/-- A step that leaves its arguments as they are does not ask the registry. -/
theorem answer_identity {s' built : Session κ} (h : built.create pattern .identity = .ok step) :
    s'.answer step request = s.answer step request := by
  obtain ⟨-, -, hdoc, htable⟩ := create_eq_ok_iff.1 h
  cases request with
  | change c => rfl
  | text text => rfl
  | docString text => simp only [answer, hdoc, docString]
  | table rows => simp only [answer, htable, table]

/-- An argument whose conversion can be made to fail for any cause can be made to give another
answer. -/
theorem exists_answer_ne (a : Answer κ)
    (h : ∀ cause, (s.after [.converter type fun _ _ => .error cause]).answer step request =
      .value (.error (.conversionFailure (.transform type.name cause)))) :
    ∃ f, (s.after [.converter type f]).answer step request ≠ a := by
  by_contra hall
  simp only [not_exists, not_not] at hall
  have hfirst := (hall _).symm.trans (h (.reason "a"))
  have hsecond := (hall _).symm.trans (h (.reason "b"))
  simp [hfirst] at hsecond

end Session

/-- Changes to converters that a step's conversions never call for, and all other changes, leave its
answers as they are. But no step for a type keeps its answers whatever is defined: for each argument
there is a converter to the type with which it is answered otherwise. Steps that leave their
arguments as they are do keep their answers. -/
theorem structural_follows_converters
    (h : s.create pattern (.structural type transposed) = .ok step) :
    (∀ types, s.registry.Closed types → types type → ∀ changes : List (Change κ),
      (∀ c ∈ changes, ∀ target, c.target? = some target → ¬types target) →
        ∀ request, (s.after changes).answer step request = s.answer step request) ∧
    (∀ text, ∃ f, (s.after [.converter type f]).answer step (.docString text) ≠
      s.answer step (.docString text)) ∧
    (∀ rows, (∀ row ∈ rows, row.length = widthOf rows) →
      ∃ f, (s.after [.converter type f]).answer step (.table rows) ≠ s.answer step (.table rows)) ∧
    ∀ kept, s.create pattern .identity = .ok kept → ∀ (changes : List (Change κ)) request,
      (s.after changes).answer kept request = s.answer kept request := by
  refine ⟨fun types hclosed htype changes hchanges request => ?_, fun text => ?_,
    fun rows hrows => ?_, fun kept hkept changes request => Session.answer_identity hkept⟩
  · refine Session.answer_structural_congr h hclosed htype (fun other hother => ?_)
      Session.nesting_after
    exact Session.converter?_after_of_ne fun c hc hc' => hchanges c hc other hc' hother
  · exact Session.exists_answer_ne _ fun cause => (Session.answer_structural_refused h cause).1 text
  · exact Session.exists_answer_ne _ fun cause =>
      (Session.answer_structural_refused h cause).2 rows hrows

open Suite in
/-- The step for all cells of a table does not see what else is converted to what, but it does see
another converter to texts in a row. -/
theorem structural_follows_converters_cells : ∃ step : Step RecordType,
    (Session.start none {}).create "a step" (.structural (.list .text) false) = .ok step ∧
      (∀ request, ((Session.start none {}).after [.records .label,
          .tableType (TableTransform.joined.tableType "cells"),
          .converter .text fun _ t => .ok (joinRows t.cells)]).answer step request =
        (Session.start none {}).answer step request) ∧
      ∃ f, ((Session.start none {}).after [.converter (.list .text) f]).answer step
          (.table [["a", "b"], ["c", "d"]]) ≠
        (Session.start none {}).answer step (.table [["a", "b"], ["c", "d"]]) := by
  obtain ⟨e, he, -⟩ : ∃ e, (Session.start none {} : Session RecordType).compile "a step" = .ok e ∧
      e.slots.length = 0 :=
    exists_ok_of_any (by decide +kernel)
  obtain ⟨step, hcreate⟩ :=
    Session.exists_create he (c := .structural (.list .text) false) (by simp)
  have hclosed :
      (Session.start none {} : Session RecordType).registry.Closed (· = .list .text) := by
    rintro type k rfl hk f g -
    cases hk
    rfl
  obtain ⟨hkept, -, hchanged, -⟩ := structural_follows_converters hcreate
  refine ⟨_, hcreate, hkept _ hclosed rfl _ ?_, hchanged _ (by decide)⟩
  intro c hc target htarget
  simp only [List.mem_cons, List.not_mem_nil, or_false] at hc
  rcases hc with rfl | rfl | rfl
  · cases htarget
    decide
  · cases htarget
  · cases htarget
    decide

/-- Another converter to texts in a row, which joins the cells of each column. -/
def Suite.joinedColumns : Change RecordType :=
  .converter (.list .text) fun _ t => .ok (t.columns.map fun column => "+".intercalate column)

/-- A step for texts in a row gives another value once they are made in another way. -/
example :
    let before : Registry Suite.RecordType := (Session.start none {}).registry
    let after : Registry Suite.RecordType :=
      ((Session.start none {}).after [Suite.joinedColumns]).registry
    ((structural (.list .text) false).table before [["a", "b"], ["c", "d"]]).value =
        .ok ⟨.list .text, ["a", "b", "c", "d"]⟩ ∧
      ((structural (.list .text) false).table after [["a", "b"], ["c", "d"]]).value =
        .ok ⟨.list .text, ["a+c", "b+d"]⟩ :=
  ⟨rfl, rfl⟩

end StepPhrase
