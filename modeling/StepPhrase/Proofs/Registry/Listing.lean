import StepPhrase.Proofs.Pattern.Types
import StepPhrase.Proofs.Registry.Definitions
import StepPhrase.Proofs.Text.Json

/-! Lists of what a registry holds, reports of what a definition replaces, and the dump: they tell
of the same definitions, those that stood ready and those that were made. -/
namespace StepPhrase

namespace NameMap

variable {α : Type} {m : NameMap α} {name : String}

/-- Where entries stand under their own names, the warning names what is replaced. -/
theorem log_warnIf_get? {nameOf : α → String} {message : String → String}
    (h : ∀ a, m.get? name = some a → nameOf a = name) :
    (Logged.warnIf ((m.get? name).map fun old => message (nameOf old))).log =
      if name ∈ m.names then [⟨.warn, message name⟩] else [] := by
  cases hold : m.get? name with
  | none =>
    have hnew : name ∉ m.names := by simp [mem_names_iff, hold]
    rw [if_neg hnew]
    rfl
  | some old =>
    have hmem : name ∈ m.names := mem_names_iff.2 ⟨old, hold⟩
    rw [if_pos hmem, ← h old hold]
    rfl

end NameMap

variable {κ : Type} [RecordKind κ]

namespace ParameterTypes

variable {t : ParameterType κ} {name : String}

theorem name_of_get?_builtin (h : (builtin : ParameterTypes κ).get? name = some t) :
    t.name = name := by
  obtain ⟨u, -, heq⟩ := List.mem_map.1 (NameMap.mem_of_get?_ofList h)
  cases heq
  rfl

theorem mem_builtinNames_iff :
    name ∈ builtinNames ↔ ∃ t, (builtin : ParameterTypes κ).get? name = some t := by
  constructor
  · intro hmem
    rw [← Option.ne_none_iff_exists']
    exact fun hnone => notMem_builtinNames hnone hmem
  · rintro ⟨t, h⟩
    have hmem := List.mem_map_of_mem (f := Prod.fst) (NameMap.mem_of_get?_ofList h)
    exact hmem

end ParameterTypes

/-- The types whose converters stand ready. -/
def Converter.builtinTargets : List (ValueType κ) :=
  [.table, .list (.list .text), .list .text, .text, .list .cellMap, .cellMap]

namespace Change

variable {c : Change κ} {t : ParameterType κ} {type : ValueType κ} {name : String}

theorem parameterType?_eq_some_iff :
    c.parameterType? name = some t ↔ c = .parameterType t ∧ t.name = name := by
  cases c with
  | parameterType u =>
    simp only [parameterType?, Option.ite_none_right_eq_some, Option.some.injEq,
      parameterType.injEq]
    constructor
    · rintro ⟨hname, rfl⟩
      exact ⟨rfl, hname⟩
    · rintro ⟨rfl, hname⟩
      exact ⟨hname, rfl⟩
  | tableType t => simp [parameterType?]
  | converter target f => simp [parameterType?]
  | records k => simp [parameterType?]
  | forced b => simp [parameterType?]
  | environment value => simp [parameterType?]

theorem exists_converter?_iff [DecidableEq κ] :
    (∃ k, c.converter? type = some k) ↔ c.target? = some type := by
  constructor
  · rintro ⟨k, hk⟩
    by_contra hne
    rw [converter?_eq_none hne] at hk
    cases hk
  · intro h
    cases c with
    | converter target f =>
      cases h
      exact ⟨_, if_pos rfl⟩
    | records k =>
      cases h
      exact ⟨_, if_pos rfl⟩
    | parameterType t => cases h
    | tableType t => cases h
    | forced b => cases h
    | environment value => cases h

end Change

variable {r : Registry κ}

/-- A table type in a dump, under the name. -/
def TableType.document (name : String) (t : TableType κ) : Json.Document :=
  .record [("name", .text name), ("target", .text t.target.name)]

open Json in
theorem Registry.spells_dump : Spells r.dump (.record [
    ("table_types", .list (r.tableTypes.entries.map fun e => e.2.document e.2.name)),
    ("structural_types", .list (r.converterNames.map .text)),
    ("parameter_types", .list (r.parameterTypeNames.map .text))]) := by
  have hnames : ∀ names : List String,
      Spells (array (names.map string)) (.list (names.map .text)) := by
    intro names
    apply spells_array
    simp [List.forall₂_map_left_iff, List.forall₂_map_right_iff, List.forall₂_same, spells_string]
  have htables : Spells (array (r.tableTypes.entries.map fun e =>
      object [("name", string e.2.name), ("target", string e.2.target.name)]))
      (.list (r.tableTypes.entries.map fun e => e.2.document e.2.name)) := by
    apply spells_array
    simp only [List.forall₂_map_left_iff, List.forall₂_map_right_iff, List.forall₂_same]
    intro e _
    exact spells_object (.cons ⟨rfl, spells_string⟩ (.cons ⟨rfl, spells_string⟩ .nil))
  exact spells_object (.cons ⟨rfl, htables⟩ (.cons ⟨rfl, hnames _⟩ (.cons ⟨rfl, hnames _⟩ .nil)))

variable [DecidableEq κ] {s : Session κ} {changes : List (Change κ)}
  {config : Option ExpressionConfig} {strictness : Strictness} {nesting : Nat} {type : ValueType κ}
  {name : String}

namespace Registry

theorem exists_converter?_iff_mem : (∃ k, r.converter? type = some k) ↔
    type ∈ r.converters.map (·.target) := by
  simp [← Option.isSome_iff_exists, converter?]

end Registry

namespace Session

/-- An entry is there if it was there from the beginning, or some change set it. -/
theorem exists_entry_after {α : Type} (entry : Session κ → Option α) (set : Change κ → Option α)
    (h : ∀ s c, entry (s.apply c) = (set c).or (entry s)) :
    (∃ a, entry (s.after changes) = some a) ↔
      (∃ a, entry s = some a) ∨ ∃ c ∈ changes, ∃ a, set c = some a := by
  simp only [← Option.isSome_iff_exists, entry_after entry set h, Option.isSome_or, Bool.or_eq_true,
    List.findSome?_isSome_iff, List.mem_reverse]
  exact or_comm

theorem mem_parameterTypeNames_iff :
    name ∈ ((start config strictness nesting).after changes).registry.parameterTypeNames ↔
      name ∈ ParameterTypes.builtinNames ∨ ∃ t, .parameterType t ∈ changes ∧ t.name = name := by
  rw [Registry.parameterTypeNames, NameMap.mem_names_iff,
    exists_entry_after (·.registry.parameterTypes.get? name) _ fun _ _ => parameterType?_apply,
    ParameterTypes.mem_builtinNames_iff (κ := κ)]
  refine or_congr_right ?_
  simp only [Change.parameterType?_eq_some_iff]
  constructor
  · rintro ⟨c, hc, t, rfl, hname⟩
    exact ⟨t, hc, hname⟩
  · rintro ⟨t, hc, hname⟩
    exact ⟨_, hc, t, rfl, hname⟩

theorem mem_tableTypeNames_iff :
    name ∈ ((start config strictness nesting).after changes).registry.tableTypeNames ↔
      ∃ t, .tableType t ∈ changes ∧ t.name = name := by
  rw [Registry.tableTypeNames, NameMap.mem_names_iff,
    exists_entry_after (·.registry.tableTypes.get? name) _ fun _ _ => tableType?_apply]
  simp only [Change.tableType?_eq_some_iff]
  constructor
  · rintro (⟨t, ht⟩ | ⟨c, hc, t, rfl, hname⟩)
    · cases ht
    · exact ⟨t, hc, hname⟩
  · rintro ⟨t, hc, hname⟩
    exact .inr ⟨_, hc, t, rfl, hname⟩

theorem exists_converter?_iff :
    (∃ k, ((start config strictness nesting).after changes).registry.converter? type = some k) ↔
      type ∈ Converter.builtinTargets ∨ ∃ c ∈ changes, c.target? = some type := by
  rw [exists_entry_after (·.registry.converter? type) _ fun _ _ => converter?_apply]
  refine or_congr ?_ ?_
  · exact Registry.exists_converter?_iff_mem
  · simp only [Change.exists_converter?_iff]

theorem name_of_parameterType? {t : ParameterType κ}
    (h : ((start config strictness nesting).after changes).registry.parameterTypes.get? name =
      some t) : t.name = name := by
  rw [entry_after (·.registry.parameterTypes.get? name) _ fun _ _ => parameterType?_apply,
    Option.or_eq_some_iff] at h
  rcases h with h | ⟨-, h⟩
  · obtain ⟨c, -, hc⟩ := List.exists_of_findSome?_eq_some h
    exact (Change.parameterType?_eq_some_iff.1 hc).2
  · exact ParameterTypes.name_of_get?_builtin h

end Session

namespace Registry

theorem log_defineConverter {k : Converter κ} : (r.defineConverter k).log =
    if k.target ∈ r.converters.map (·.target) then
      [⟨.warn, redefinedConverter k.target.name⟩]
    else [] := by
  simp only [defineConverter, Logged.log_bind, Logged.log_pure, List.append_nil]
  cases hold : r.converter? k.target with
  | none =>
    have hnew : k.target ∉ r.converters.map (·.target) := by
      simp [← exists_converter?_iff_mem, hold]
    rw [if_neg hnew]
    rfl
  | some old =>
    have hmem := exists_converter?_iff_mem.1 ⟨old, hold⟩
    rw [if_pos hmem, ← target_of_converter? hold]
    rfl

/-- The lists hold what stood ready and what the changes defined, each once and in order, and
nothing else; and what they hold is found. -/
structure Lists (r : Registry κ) (changes : List (Change κ)) : Prop where
  parameterTypes_sorted : r.parameterTypeNames.Pairwise (· < ·)
  mem_parameterTypes : ∀ name, name ∈ r.parameterTypeNames ↔
    name ∈ ParameterTypes.builtinNames ∨ ∃ t, .parameterType t ∈ changes ∧ t.name = name
  found_parameterType : ∀ name, name ∈ r.parameterTypeNames ↔
    ∃ t, r.parameterTypes.get? name = some t ∧ t.name = name
  tableTypes_sorted : r.tableTypeNames.Pairwise (· < ·)
  mem_tableTypes : ∀ name, name ∈ r.tableTypeNames ↔
    ∃ t, .tableType t ∈ changes ∧ t.name = name
  found_tableType : ∀ name, name ∈ r.tableTypeNames ↔
    ∃ t, r.tableType? name = some t ∧ t.name = name
  converters_sorted : r.converterNames.Pairwise (· ≤ ·)
  converters : ∃ types : List (ValueType κ), types.Nodup ∧
    r.converterNames.Perm (types.map (·.name)) ∧
    (∀ type, type ∈ types ↔ ∃ k, r.converter? type = some k) ∧
    ∀ type, type ∈ types ↔
      type ∈ Converter.builtinTargets ∨ ∃ c ∈ changes, c.target? = some type

/-- A definition gives back what its name stood for, and warns just if that was listed. -/
structure Reports (r : Registry κ) : Prop where
  replaced : ∀ t, (r.defineTableType t).value.2 = r.tableType? t.name
  tableType : ∀ t, (r.defineTableType t).log =
    if t.name ∈ r.tableTypeNames then [⟨.warn, redefinedTableType t.name⟩] else []
  parameterType : ∀ t, (r.defineParameterType t).log =
    if t.name ∈ r.parameterTypeNames then [⟨.warn, ParameterTypes.redefined t.name⟩] else []
  converter : ∀ k, (r.defineConverter k).log =
    if k.target ∈ r.converters.map (·.target) then [⟨.warn, redefinedConverter k.target.name⟩]
    else []

/-- The dump is a text that is read as the lists, with what each table type makes. -/
def Dumps (r : Registry κ) : Prop :=
  ∃ tables : List (String × TableType κ), tables.map (·.1) = r.tableTypeNames ∧
    (∀ e ∈ tables, r.tableType? e.1 = some e.2) ∧
    Json.read? r.dump = some (.record [
      ("table_types", .list (tables.map fun e => e.2.document e.1)),
      ("structural_types", .list (r.converterNames.map .text)),
      ("parameter_types", .list (r.parameterTypeNames.map .text))])

end Registry

namespace Session

theorem lists_after :
    ((start config strictness nesting).after changes).registry.Lists changes where
  parameterTypes_sorted := NameMap.pairwise_names
  mem_parameterTypes name := mem_parameterTypeNames_iff
  found_parameterType name := by
    rw [Registry.parameterTypeNames, NameMap.mem_names_iff]
    exact exists_congr fun t => (and_iff_left_of_imp name_of_parameterType?).symm
  tableTypes_sorted := NameMap.pairwise_names
  mem_tableTypes name := mem_tableTypeNames_iff
  found_tableType name := by
    rw [Registry.tableTypeNames, NameMap.mem_names_iff]
    exact exists_congr fun t =>
      (and_iff_left_of_imp fun h => (tableType?_eq_some_iff.1 h).1).symm
  converters_sorted := Registry.pairwise_converterNames
  converters := by
    have hdistinct : ((start config strictness nesting).after changes).registry.Distinct :=
      distinct_after Registry.distinct_start
    refine ⟨_, hdistinct, ?_, fun type => ?_, fun type => ?_⟩
    · rw [List.map_map]
      exact List.mergeSort_perm _ _
    · exact Registry.exists_converter?_iff_mem.symm
    · exact Registry.exists_converter?_iff_mem.symm.trans exists_converter?_iff

theorem reports_after : ((start config strictness nesting).after changes).registry.Reports where
  replaced t := rfl
  tableType t := by
    simp only [Registry.defineTableType, Logged.log_bind, Logged.log_pure, List.append_nil]
    exact NameMap.log_warnIf_get? fun u h => (tableType?_eq_some_iff.1 h).1
  parameterType t := by
    simp only [Registry.defineParameterType, ParameterTypes.define, Logged.log_bind,
      Logged.log_pure, List.append_nil]
    exact NameMap.log_warnIf_get? fun u => name_of_parameterType?
  converter k := Registry.log_defineConverter

theorem name_of_mem_entries {e : String × TableType κ}
    (h : e ∈ ((start config strictness nesting).after changes).registry.tableTypes.entries) :
    e.2.name = e.1 :=
  (tableType?_eq_some_iff.1 (NameMap.get?_eq_some_iff.2 h)).1

theorem dumps_after : ((start config strictness nesting).after changes).registry.Dumps := by
  refine ⟨_, rfl, fun e he => NameMap.get?_eq_some_iff.2 he, ?_⟩
  rw [Registry.spells_dump.read?_eq]
  -- a table type is dumped under its own name, but listed under that of its entry
  rw [List.map_congr_left fun e he => by rw [name_of_mem_entries he]]

end Session

/-- Whatever was defined, and defined again, the lists of a registry, what it finds, what it reports
of the next definition and what it dumps tell of the same definitions. -/
theorem definitions_told (config : Option ExpressionConfig) (strictness : Strictness)
    (nesting : Nat) (changes : List (Change κ)) :
    let r := ((Session.start config strictness nesting).after changes).registry
    r.Lists changes ∧ r.Reports ∧ r.Dumps :=
  ⟨Session.lists_after, Session.reports_after, Session.dumps_after⟩

end StepPhrase
