import StepPhrase.Proofs.Lookup
import StepPhrase.Proofs.Registry.History

/-! What a registry holds: the last definition of each name, and the last converter to each type. -/
namespace StepPhrase

variable {κ : Type} [RecordKind κ] {config : Option ExpressionConfig}
  {strictness strictness' : Strictness} {nesting : Nat}

namespace Registry

variable {r r' : Registry κ} {k : Converter κ}

/-- There is at most one converter to each type. -/
def Distinct (r : Registry κ) : Prop := (r.converters.map (·.target)).Nodup

theorem distinct_start :
    (Session.start config strictness nesting : Session κ).registry.Distinct := by
  change (Converter.builtin.map (·.target)).Nodup
  simp [Converter.builtin, Converter.table, Converter.rows, Converter.cells, Converter.singleCell,
    Converter.headerMaps, Converter.pairs]

theorem Distinct.defineConverter [DecidableEq κ] (h : r.Distinct) :
    (r.defineConverter k).value.Distinct := by
  have hrest : (r.defineConverter k).value.converters =
      k :: r.converters.filter (·.target ≠ k.target) := rfl
  rw [Distinct, hrest, List.map_cons, List.nodup_cons]
  constructor
  · simp
  · exact h.sublist (List.filter_sublist.map _)

theorem pairwise_converterNames : r.converterNames.Pairwise (· ≤ ·) := by
  have htrans : ∀ a b c : String, decide (a ≤ b) → decide (b ≤ c) → decide (a ≤ c) := by
    intro a b c hab hbc
    exact decide_eq_true (String.le_trans (of_decide_eq_true hab) (of_decide_eq_true hbc))
  have htotal : ∀ a b : String, decide (a ≤ b) || decide (b ≤ a) := by
    intro a b
    simpa using String.le_total a b
  have hsorted := List.pairwise_mergeSort htrans htotal (r.converters.map (·.target.name))
  exact hsorted.imp of_decide_eq_true

/-- The names are listed in one order, wherever the converters stand. -/
theorem converterNames_of_perm (h : r.converters.Perm r'.converters) :
    r.converterNames = r'.converterNames := by
  have hperm : r.converterNames.Perm r'.converterNames :=
    (List.mergeSort_perm _ _).trans ((h.map _).trans (List.mergeSort_perm _ _).symm)
  exact hperm.eq_of_pairwise (fun _ _ _ _ => String.le_antisymm) pairwise_converterNames
    pairwise_converterNames

end Registry

variable [DecidableEq κ] {s s' : Session κ} {c : Change κ} {first second changes : List (Change κ)}
  {type : ValueType κ} {name : String}

/-- Both end with the same last definition of every parameter type, of every table type and of the
converter to every type. -/
structure EndAlike (first second : List (Change κ)) : Prop where
  parameterType : ∀ name t, SetLast (Change.parameterType? name) first t ↔
    SetLast (Change.parameterType? name) second t
  tableType : ∀ name t, SetLast (Change.tableType? name) first t ↔
    SetLast (Change.tableType? name) second t
  converter : ∀ type k, SetLast (Change.converter? type) first k ↔
    SetLast (Change.converter? type) second k

namespace Session

/-- An entry that was last set alike is the same, whatever was set before and beside it. -/
theorem entry_after_congr {α : Type} (entry : Session κ → Option α) {set : Change κ → Option α}
    (h : ∀ s c, entry (s.apply c) = (set c).or (entry s)) (hstart : entry s = entry s')
    (hlast : ∀ a, SetLast set first a ↔ SetLast set second a) :
    entry (s.after first) = entry (s'.after second) := by
  have hset : first.reverse.findSome? set = second.reverse.findSome? set := by
    apply Option.ext
    intro a
    rw [← setLast_iff, ← setLast_iff, hlast]
  rw [entry_after entry set h, entry_after entry set h, hset, hstart]

theorem distinct_apply (h : s.registry.Distinct) : (s.apply c).registry.Distinct := by
  cases c with
  | converter target f => exact h.defineConverter
  | records k => exact h.defineConverter
  | parameterType t => exact h
  | tableType t => exact h
  | forced b => exact h
  | environment value => exact h

theorem distinct_after (h : s.registry.Distinct) : (s.after changes).registry.Distinct := by
  apply after_of_apply (P := fun s => s.registry.Distinct) h
  intro s c hs
  exact distinct_apply hs

end Session

/-- The registries hold the same; only their converters may stand in another order. -/
structure Registry.Same (r r' : Registry κ) : Prop where
  parameterTypes : r.parameterTypes = r'.parameterTypes
  tableTypes : r.tableTypes = r'.tableTypes
  converters : r.converters.Perm r'.converters
  converter? : ∀ type, r.converter? type = r'.converter? type
  config : r.config = r'.config
  nesting : r.nesting = r'.nesting

/-- Histories that end alike leave the same in registries that began alike. -/
theorem EndAlike.same (h : EndAlike first second) :
    Registry.Same ((Session.start config strictness nesting).after first).registry
      ((Session.start config strictness' nesting).after second).registry := by
  have hconverter : ∀ type,
      ((Session.start config strictness nesting).after first).registry.converter? type =
        ((Session.start config strictness' nesting).after second).registry.converter? type := by
    intro type
    exact Session.entry_after_congr (·.registry.converter? type)
      (fun _ _ => Session.converter?_apply) rfl (h.converter type)
  constructor
  case parameterTypes =>
    apply NameMap.ext_get?
    intro name
    exact Session.entry_after_congr (·.registry.parameterTypes.get? name)
      (fun _ _ => Session.parameterType?_apply) rfl (h.parameterType name)
  case tableTypes =>
    apply NameMap.ext_get?
    intro name
    exact Session.entry_after_congr (·.registry.tableType? name)
      (fun _ _ => Session.tableType?_apply) rfl (h.tableType name)
  case converters =>
    exact perm_of_find?_key (Session.distinct_after Registry.distinct_start)
      (Session.distinct_after Registry.distinct_start) hconverter
  case converter? => exact hconverter
  case config =>
    rw [Session.config_after, Session.config_after]
    rfl
  case nesting =>
    rw [Session.nesting_after, Session.nesting_after]
    rfl

end StepPhrase
