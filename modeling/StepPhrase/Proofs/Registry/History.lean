import Mathlib.Data.List.Induction
import StepPhrase.Registry

/-! Histories: what a program changes in its registry and in what decides on strictness, one change
after the other. -/
namespace StepPhrase

variable {κ : Type} [RecordKind κ]

/-- What a program can change while it runs. -/
inductive Change (κ : Type) [RecordKind κ] where
  | parameterType (t : ParameterType κ)
  | tableType (t : TableType κ)
  | converter (target : ValueType κ) (f : Conversions κ → DataTable → Except Cause target.Element)
  | records (k : κ)
  /-- The process decides on strictness, or leaves it to the environment. -/
  | forced (b : Option Bool)
  | environment (value : Option String)

/-- A registry, and what the process and its environment say about strictness. -/
structure Session (κ : Type) [RecordKind κ] where
  registry : Registry κ
  strictness : Strictness

namespace Session

/-- Before anything is defined. -/
def start (config : Option ExpressionConfig) (strictness : Strictness) (nesting : Nat := 255) :
    Session κ :=
  ⟨{ config := config, nesting := nesting }, strictness⟩

/-- How patterns are compiled now. -/
def config (s : Session κ) : ExpressionConfig := (s.registry.expressionConfig s.strictness).value

variable [DecidableEq κ]

def apply (s : Session κ) : Change κ → Session κ
  | .parameterType t => { s with registry := (s.registry.defineParameterType t).value }
  | .tableType t => { s with registry := (s.registry.defineTableType t).value.1 }
  | .converter target f =>
    { s with registry := (s.registry.defineConverter (.ofTransform target f)).value }
  | .records k => { s with registry := (s.registry.defineRecords k).value }
  | .forced b => { s with strictness := { s.strictness with forced := b } }
  | .environment value => { s with strictness := { s.strictness with environment := value } }

def after (s : Session κ) (changes : List (Change κ)) : Session κ := changes.foldl apply s

end Session

namespace Change

variable {c : Change κ} {t : TableType κ} {type : ValueType κ} {name : String}

/-- The parameter type that the change puts under the name. -/
def parameterType? (name : String) : Change κ → Option (ParameterType κ)
  | parameterType t => if t.name = name then some t else none
  | _ => none

/-- The table type that the change puts under the name. -/
def tableType? (name : String) : Change κ → Option (TableType κ)
  | tableType t => if t.name = name then some t else none
  | _ => none

/-- The type whose converter is another one after the change. -/
def target? : Change κ → Option (ValueType κ)
  | converter target _ => some target
  | records k => some (.rows k)
  | _ => none

/-- The converter to the type that the change brings. -/
def converter? [DecidableEq κ] (type : ValueType κ) : Change κ → Option (Converter κ)
  | converter target f => if target = type then some (.ofTransform target f) else none
  | records k => if .rows k = type then some (.ofRecords k) else none
  | _ => none

theorem converter?_eq_none [DecidableEq κ] (h : c.target? ≠ some type) :
    c.converter? type = none := by
  cases c with
  | converter target f => exact if_neg fun heq => h (congrArg some heq)
  | records k => exact if_neg fun heq => h (congrArg some heq)
  | parameterType t => rfl
  | tableType t => rfl
  | forced b => rfl
  | environment value => rfl

theorem tableType?_eq_some_iff :
    c.tableType? name = some t ↔ c = .tableType t ∧ t.name = name := by
  cases c with
  | tableType u =>
    simp only [tableType?, Option.ite_none_right_eq_some, Option.some.injEq, tableType.injEq]
    constructor
    · rintro ⟨hname, rfl⟩
      exact ⟨rfl, hname⟩
    · rintro ⟨rfl, hname⟩
      exact ⟨hname, rfl⟩
  | parameterType t => simp [tableType?]
  | converter target f => simp [tableType?]
  | records k => simp [tableType?]
  | forced b => simp [tableType?]
  | environment value => simp [tableType?]

theorem tableType?_eq_none_iff :
    c.tableType? name = none ↔ ∀ u, c = .tableType u → u.name ≠ name := by
  simp only [Option.eq_none_iff_forall_ne_some, ne_eq, tableType?_eq_some_iff, not_and]

end Change

/-- Of the changes that define a table type of this name, the last one defines this table type. -/
def DefinedLast (changes : List (Change κ)) (t : TableType κ) : Prop :=
  ∃ before after, changes = before ++ .tableType t :: after ∧
    ∀ u, .tableType u ∈ after → u.name ≠ t.name

/-- Of the changes that set an entry, the last one sets it to this. -/
def SetLast {α : Type} (set : Change κ → Option α) (changes : List (Change κ)) (a : α) : Prop :=
  ∃ before c after, changes = before ++ c :: after ∧ set c = some a ∧ ∀ d ∈ after, set d = none

theorem setLast_iff {α : Type} {set : Change κ → Option α} {changes : List (Change κ)} {a : α} :
    SetLast set changes a ↔ changes.reverse.findSome? set = some a := by
  rw [List.findSome?_eq_some_iff]
  constructor
  · rintro ⟨before, c, after, rfl, hset, hafter⟩
    refine ⟨after.reverse, c, before.reverse, by simp, hset, ?_⟩
    intro d hd
    exact hafter d (List.mem_reverse.1 hd)
  · rintro ⟨after, c, before, hsplit, hset, hafter⟩
    refine ⟨before.reverse, c, after.reverse, by simpa using congrArg List.reverse hsplit, hset, ?_⟩
    intro d hd
    exact hafter d (List.mem_reverse.1 hd)

theorem setLast_tableType_iff {changes : List (Change κ)} {t : TableType κ} {name : String} :
    SetLast (Change.tableType? name) changes t ↔ t.name = name ∧ DefinedLast changes t := by
  simp only [SetLast, Change.tableType?_eq_some_iff, Change.tableType?_eq_none_iff]
  constructor
  · rintro ⟨before, c, after, rfl, ⟨rfl, rfl⟩, hafter⟩
    exact ⟨rfl, before, after, rfl, fun u hu => hafter _ hu u rfl⟩
  · rintro ⟨rfl, before, after, rfl, hafter⟩
    refine ⟨before, _, after, rfl, ⟨rfl, rfl⟩, ?_⟩
    rintro d hd u rfl
    exact hafter u hd

theorem DefinedLast.mem {changes : List (Change κ)} {t : TableType κ}
    (h : DefinedLast changes t) : .tableType t ∈ changes := by
  obtain ⟨before, after, rfl, -⟩ := h
  simp

variable [DecidableEq κ] {s : Session κ} {c : Change κ} {changes later : List (Change κ)}
  {type : ValueType κ} {t : TableType κ} {name : String}
  {config : Option ExpressionConfig} {strictness : Strictness} {nesting : Nat}

namespace Registry

variable {r : Registry κ} {k : Converter κ}

theorem converter?_defineConverter : (r.defineConverter k).value.converter? type =
    if k.target = type then some k else r.converter? type := by
  have hrest : (r.defineConverter k).value.converters =
      k :: r.converters.filter (·.target ≠ k.target) := rfl
  rw [converter?, hrest, List.find?_cons]
  by_cases h : k.target = type
  · simp [h]
  · simp only [h, decide_false, if_false, List.find?_filter, converter?]
    congr 1
    funext k'
    by_cases hk : k'.target = type
    · simp [hk, Ne.symm h]
    · simp [hk]

theorem target_of_converter? (h : r.converter? type = some k) : k.target = type := by
  simpa using List.find?_some h

end Registry

namespace Session

theorem after_append : s.after (changes ++ later) = (s.after changes).after later :=
  List.foldl_append

theorem after_concat : s.after (changes ++ [c]) = (s.after changes).apply c := after_append

/-- What every change keeps, a whole history keeps. -/
theorem after_of_apply {P : Session κ → Prop} (h : P s) (hstep : ∀ s c, P s → P (s.apply c)) :
    P (s.after changes) := by
  induction changes generalizing s with
  | nil => exact h
  | cons c changes ih => exact ih (hstep s c h)

/-- Changes leave an entry that each of them leaves. -/
theorem fixed_after {α : Type} (entry : Session κ → α) (h : ∀ s c, entry (s.apply c) = entry s) :
    entry (s.after changes) = entry s := by
  apply after_of_apply (P := fun s' => entry s' = entry s) rfl
  intro s' c hs
  rw [h, hs]

theorem settings_apply : (s.apply c).registry.config = s.registry.config ∧
    (s.apply c).registry.nesting = s.registry.nesting := by
  cases c <;> exact ⟨rfl, rfl⟩

/-- How patterns are compiled is settled when the registry is made. -/
theorem config_after : (s.after changes).registry.config = s.registry.config :=
  fixed_after (·.registry.config) fun _ _ => settings_apply.1

theorem nesting_after : (s.after changes).registry.nesting = s.registry.nesting :=
  fixed_after (·.registry.nesting) fun _ _ => settings_apply.2

/-- Where each change either sets an entry or leaves it, the last one that sets it counts. -/
theorem entry_after {α : Type} (entry : Session κ → Option α) (set : Change κ → Option α)
    (h : ∀ s c, entry (s.apply c) = (set c).or (entry s)) :
    entry (s.after changes) = (changes.reverse.findSome? set).or (entry s) := by
  induction changes using List.reverseRecOn with
  | nil => rfl
  | append_singleton changes c ih =>
    rw [after_concat, h, ih, List.reverse_append, List.reverse_singleton, List.singleton_append,
      List.findSome?_cons]
    cases set c with
    | some a => rfl
    | none => rfl

theorem entry_after_of_forall {α : Type} (entry : Session κ → Option α)
    {set : Change κ → Option α} (h : ∀ s c, entry (s.apply c) = (set c).or (entry s))
    (hnone : ∀ c ∈ changes, set c = none) : entry (s.after changes) = entry s := by
  have hfind : changes.reverse.findSome? set = none := by
    rw [List.findSome?_eq_none_iff]
    intro c hc
    exact hnone c (List.mem_reverse.1 hc)
  rw [entry_after entry set h, hfind, Option.none_or]

theorem parameterType?_apply : (s.apply c).registry.parameterTypes.get? name =
    (c.parameterType? name).or (s.registry.parameterTypes.get? name) := by
  cases c with
  | parameterType t =>
    rw [apply, Change.parameterType?]
    exact (NameMap.get?_insert ..).trans (by split <;> rfl)
  | tableType t => rfl
  | converter target f => rfl
  | records k => rfl
  | forced b => rfl
  | environment value => rfl

theorem converter?_apply : (s.apply c).registry.converter? type =
    (c.converter? type).or (s.registry.converter? type) := by
  cases c with
  | converter target f =>
    refine Registry.converter?_defineConverter.trans ?_
    change (if target = type then _ else _) = _
    rw [Change.converter?]
    split <;> rfl
  | records k =>
    refine Registry.converter?_defineConverter.trans ?_
    change (if .rows k = type then _ else _) = _
    rw [Change.converter?]
    split <;> rfl
  | parameterType t => rfl
  | tableType t => rfl
  | forced b => rfl
  | environment value => rfl

theorem tableType?_apply :
    (s.apply c).registry.tableType? name = (c.tableType? name).or (s.registry.tableType? name) := by
  cases c with
  | tableType t =>
    rw [apply, Change.tableType?]
    exact (NameMap.get?_insert ..).trans (by split <;> rfl)
  | parameterType t => rfl
  | converter target f => rfl
  | records k => rfl
  | forced b => rfl
  | environment value => rfl

theorem tableType?_after_start :
    ((start config strictness nesting).after changes).registry.tableType? name =
      changes.reverse.findSome? (Change.tableType? name) := by
  rw [entry_after (·.registry.tableType? name) _ fun s c => tableType?_apply]
  exact Option.or_none

/-- A name stands for the table type that was last defined under it. -/
theorem tableType?_eq_some_iff :
    ((start config strictness nesting).after changes).registry.tableType? name = some t ↔
      t.name = name ∧ DefinedLast changes t := by
  rw [tableType?_after_start, ← setLast_iff, setLast_tableType_iff]

theorem tableType?_eq_none_iff :
    ((start config strictness nesting).after changes).registry.tableType? name = none ↔
      ∀ u, .tableType u ∈ changes → u.name ≠ name := by
  rw [tableType?_after_start, List.findSome?_eq_none_iff]
  simp only [Change.tableType?_eq_none_iff, List.mem_reverse]
  constructor
  · intro h u hu
    exact h _ hu u rfl
  · rintro h c hc u rfl
    exact h u hc

/-- Changes to other types leave the converter to this one. -/
theorem converter?_after_of_ne (h : ∀ c ∈ changes, c.target? ≠ some type) :
    (s.after changes).registry.converter? type = s.registry.converter? type :=
  entry_after_of_forall (·.registry.converter? type) (fun _ _ => converter?_apply) fun c hc =>
    Change.converter?_eq_none (h c hc)

end Session

end StepPhrase
