import StepPhrase.Proofs.Except
import StepPhrase.Proofs.Registry.History

/-! Conversions through a registry give values of the type that they are asked for. -/
namespace StepPhrase

variable {κ : Type} [RecordKind κ] {k : Converter κ} {conversions : Conversions κ} {t : DataTable}
  {type : ValueType κ} {name : String}

namespace Converter

/-- How converters come about: they stand ready, or a caller's code or a kind of record makes
them. -/
inductive Made : Converter κ → Prop
  | builtin {k : Converter κ} : k ∈ builtin → Made k
  | transform {target : ValueType κ}
    {f : Conversions κ → DataTable → Except Cause target.Element} : Made (.ofTransform target f)
  | records {kind : κ} : Made (.ofRecords kind)

theorem addPairs_ne_typeMismatch {m : CellMap} {rows : List (List String)} :
    addPairs m rows ≠ .error (.typeMismatch name) := by
  fun_induction addPairs m rows with
  | case1 m => simp
  | case2 m key value rest hkey => simp
  | case3 m key value rest hkey ih => exact ih
  | case4 m row rest hrow => simp

/-- Converters fail for reasons of their own, never for the type of a value. -/
theorem Made.run_ne_typeMismatch (h : k.Made) :
    k.run conversions t ≠ .error (.typeMismatch name) := by
  cases h with
  | builtin h =>
    simp only [Converter.builtin, List.mem_cons, List.not_mem_nil, or_false] at h
    rcases h with rfl | rfl | rfl | rfl | rfl | rfl
    · simp [table]
    · simp [rows]
    · simp [cells]
    · simp only [singleCell]
      split <;> simp
    · simp only [headerMaps]
      split <;> simp
    · exact addPairs_ne_typeMismatch
  | transform =>
    intro h
    obtain ⟨cause, -, he⟩ := mapError_eq_error_iff.1 h
    cases he
  | records =>
    intro h
    obtain ⟨e, -, he⟩ := mapError_eq_error_iff.1 h
    cases he

end Converter

namespace Value

variable [DecidableEq κ] {v : Value κ} {e : ConversionError}

theorem get_eq_error_iff : v.get type = .error e ↔ v.type ≠ type ∧ e = .typeMismatch type.name := by
  unfold get get?
  by_cases h : v.type = type
  · simp [h]
  · simp [h, eq_comm]

end Value

variable [DecidableEq κ] {r : Registry κ} {v : Value κ} {transposed : Bool}
  {s : Session κ} {c : Change κ} {changes : List (Change κ)} {config : Option ExpressionConfig}
  {strictness : Strictness} {nesting : Nat}

namespace Registry

/-- Whatever the converter is given when it calls for other conversions. -/
theorem type_of_convertThrough (h : r.convertThrough conversions t type = .ok v) :
    v.type = type := by
  unfold convertThrough at h
  split at h
  · cases h
  · rename_i k hk
    obtain ⟨x, -, rfl⟩ := map_eq_ok_iff.1 h
    exact target_of_converter? hk

theorem convertThrough_ne_typeMismatch (hmade : ∀ k ∈ r.converters, k.Made) :
    r.convertThrough conversions t type ≠ .error (.typeMismatch name) := by
  intro h
  unfold convertThrough at h
  split at h
  · cases h
  · rename_i k hk
    exact (hmade k (List.mem_of_find?_eq_some hk)).run_ne_typeMismatch (map_eq_error_iff.1 h)

theorem type_of_convert (h : t.convert r.convert type transposed = .ok v) : v.type = type := by
  unfold DataTable.convert at h
  split at h
  · exact type_of_convertThrough h
  · cases h

theorem convert_ne_typeMismatch (hmade : ∀ k ∈ r.converters, k.Made) :
    t.convert r.convert type transposed ≠ .error (.typeMismatch name) := by
  unfold DataTable.convert
  split
  · exact convertThrough_ne_typeMismatch hmade
  · simp

/-- A typed conversion of a table through the registry never gets a value of another type. -/
theorem convertTo_ne_typeMismatch (hmade : ∀ k ∈ r.converters, k.Made) :
    t.convertTo r.convert type transposed ≠ .error (.typeMismatch name) := by
  intro h
  rcases bind_eq_error_iff.1 h with h | ⟨v, hv, h⟩
  · exact convert_ne_typeMismatch hmade h
  · exact (Value.get_eq_error_iff.1 h).1 (type_of_convert hv)

end Registry

namespace Session

theorem made_of_mem_apply (h : k ∈ (s.apply c).registry.converters) :
    k ∈ s.registry.converters ∨ k.Made := by
  cases c with
  | converter target f =>
    rcases List.mem_cons.1 h with rfl | h
    · exact .inr .transform
    · exact .inl (List.mem_filter.1 h).1
  | records kind =>
    rcases List.mem_cons.1 h with rfl | h
    · exact .inr .records
    · exact .inl (List.mem_filter.1 h).1
  | parameterType t => exact .inl h
  | tableType t => exact .inl h
  | forced b => exact .inl h
  | environment value => exact .inl h

theorem made_of_mem
    (h : k ∈ ((start config strictness nesting).after changes).registry.converters) : k.Made := by
  have hall :
      ∀ k ∈ ((start config strictness nesting).after changes).registry.converters, k.Made := by
    apply after_of_apply (P := fun s => ∀ k ∈ s.registry.converters, k.Made)
    · intro k hk
      exact .builtin hk
    · intro s c ih k hk
      exact (made_of_mem_apply hk).elim (ih k) id
  exact hall k h

end Session

end StepPhrase
