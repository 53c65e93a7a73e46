import StepPhrase.Expression
import StepPhrase.Proofs.Except
import StepPhrase.Proofs.Lookup
import StepPhrase.Proofs.Pattern.Fragments

/-! The parameter types that patterns can name, and the pieces that patterns resolve to. -/
namespace StepPhrase

open Regex Lexeme

variable {κ : Type} [RecordKind κ] {types : ParameterTypes κ} {type : ParameterType κ}
  {hint : String} {config : ExpressionConfig}

namespace ParameterType

/-- The type is made of an expression of its own, whose groups it counts. -/
structure Accepted (t : ParameterType κ) : Prop where
  whole : Whole t.fragment.toList
  inner : t.innerGroups = t.tree.maxGroup 0

theorem accepted_of_ofFragment {name fragment : String}
    {convert : String → Except Cause (Value κ)} (h : ofFragment name fragment convert = .ok type) :
    type.Accepted := by
  unfold ofFragment at h
  split at h
  · rename_i r hr
    obtain ⟨n, hn, rfl⟩ := compile_eq_ok hr
    obtain ⟨hwhole, rfl⟩ := Node.ofText?_eq_some_iff.1 hn
    cases h
    exact ⟨hwhole, rfl⟩
  · cases h

theorem ofFragment_eq_ok {name fragment : String} {groups : Nat}
    {convert : String → Except Cause (Value κ)}
    (h : (Regex.compile fragment).toOption.any (·.groups == groups) = true) :
    ofFragment name fragment convert = .ok ⟨name, fragment, groups, convert⟩ := by
  unfold ofFragment
  cases hr : Regex.compile fragment with
  | error fault =>
    rw [hr] at h
    cases h
  | ok r =>
    rw [hr] at h
    simp [← eq_of_beq h]

theorem value_eq_ok_iff {text : String} {v : Value κ} :
    type.value text = .ok v ↔ type.convert text = .ok v :=
  mapError_eq_ok_iff

/-- A text that is refused is told with the name of the type. -/
theorem value_eq_error_iff {text : String} {e : ParameterError} : type.value text = .error e ↔
    ∃ cause, type.convert text = .error cause ∧ .refused type.name text cause = e :=
  mapError_eq_error_iff

/-- The texts that the type of a hint takes; all other hints are names for texts. -/
def language : Option String → List Char → Prop
  | none => IsText
  | some hint =>
    match hint with
    | "u8" | "u16" | "u32" | "u64" | "u128" | "usize" => IsDigits
    | "i8" | "i16" | "i32" | "i64" | "i128" | "isize" => IsSigned
    | "f32" | "f64" => IsFloat
    | "bool" => IsBool
    | "word" => IsWord
    | _ => IsText

/-- The type stands ready, and its fragment has the language. -/
structure Ready (t : ParameterType κ) (L : List Char → Prop) : Prop where
  fragment : Fragment.Ready t.fragment L
  inner : t.innerGroups = 0

theorem Ready.groups_tree {L : List Char → Prop} (h : type.Ready L) : type.tree.groups = [] := by
  apply List.eq_nil_iff_forall_not_mem.2
  intro i hi
  have hopened := h.fragment.opened
  have := h.fragment.whole.amongFirst i hi
  omega

theorem Ready.accepted {L : List Char → Prop} (h : type.Ready L) : type.Accepted := by
  refine ⟨h.fragment.whole, ?_⟩
  rw [h.inner, Node.maxGroup_eq_foldl, h.groups_tree]
  rfl

theorem ready_text {name : String} : (text name : ParameterType κ).Ready IsText :=
  ⟨Fragment.ready_text, rfl⟩

end ParameterType

open ParameterType

namespace ParameterTypes

/-- The types that stand ready, under their names. -/
theorem eq_of_get?_builtin (h : (builtin : ParameterTypes κ).get? hint = some type) :
    (∃ t, hint = IntType.name t ∧ type = .int t) ∨ (∃ t, hint = FloatType.name t ∧ type = .float t) ∨
      hint = "String" ∧ type = .text "String" ∨ hint = "word" ∧ type = .word ∨
        hint = "bool" ∧ type = .bool := by
  have hmem := NameMap.mem_of_get?_ofList h
  obtain ⟨type', htype, heq⟩ := List.mem_map.1 hmem
  cases heq
  rcases List.mem_append.1 htype with hint | htype
  · obtain ⟨t, -, rfl⟩ := List.mem_map.1 hint
    exact .inl ⟨t, rfl, rfl⟩
  · simp only [List.mem_cons, List.not_mem_nil, or_false] at htype
    rcases htype with rfl | rfl | rfl | rfl | rfl
    · exact .inr (.inl ⟨.f32, rfl, rfl⟩)
    · exact .inr (.inl ⟨.f64, rfl, rfl⟩)
    · exact .inr (.inr (.inl ⟨rfl, rfl⟩))
    · exact .inr (.inr (.inr (.inl ⟨rfl, rfl⟩)))
    · exact .inr (.inr (.inr (.inr ⟨rfl, rfl⟩)))

theorem ready_of_get?_builtin (h : (builtin : ParameterTypes κ).get? hint = some type) :
    type.Ready (language (some hint)) := by
  rcases eq_of_get?_builtin h with
    ⟨t, rfl, rfl⟩ | ⟨t, rfl, rfl⟩ | ⟨rfl, rfl⟩ | ⟨rfl, rfl⟩ | ⟨rfl, rfl⟩
  · cases t
    all_goals first
    | exact ⟨Fragment.ready_unsigned, rfl⟩
    | exact ⟨Fragment.ready_signed, rfl⟩
  · cases t
    all_goals exact ⟨Fragment.ready_float, rfl⟩
  · exact ⟨Fragment.ready_text, rfl⟩
  · exact ⟨Fragment.ready_word, rfl⟩
  · exact ⟨Fragment.ready_bool, rfl⟩

/-- The names of the types that stand ready. -/
def builtinNames : List String :=
  ["u8", "u16", "u32", "u64", "u128", "usize", "i8", "i16", "i32", "i64", "i128", "isize", "f32",
    "f64", "String", "word", "bool"]

theorem notMem_builtinNames (h : (builtin : ParameterTypes κ).get? hint = none) :
    hint ∉ builtinNames := by
  have hne := NameMap.ne_of_get?_ofList h
  have hname : ∀ name ∈ builtinNames, name ≠ hint := by
    simp only [builtinNames, List.map_cons, List.map_nil, List.cons_append, List.nil_append,
      List.forall_mem_cons, List.not_mem_nil, false_implies, implies_true] at hne ⊢
    exact hne
  exact fun hmem => hname hint hmem rfl

theorem language_of_get?_builtin (h : (builtin : ParameterTypes κ).get? hint = none) :
    language (some hint) = IsText := by
  have hname := notMem_builtinNames h
  unfold language
  dsimp only
  split
  all_goals first
  | rfl
  | exact absurd (by decide) hname

/-- What can be made of the types that stand ready, or of none, by defining types. -/
inductive Reachable : ParameterTypes κ → Prop
  | builtin : Reachable builtin
  | empty : Reachable ∅
  | define {types : ParameterTypes κ} {type : ParameterType κ} {name fragment : String}
    {convert : String → Except Cause (Value κ)} : Reachable types →
      ofFragment name fragment convert = .ok type → Reachable (types.define type).value.1

theorem Reachable.accepted (h : Reachable types) (ht : types.get? hint = some type) :
    type.Accepted := by
  induction h with
  | builtin => exact (ready_of_get?_builtin ht).accepted
  | empty => cases ht
  | define h hof ih =>
    rw [show (ParameterTypes.define _ _).value.1 = NameMap.insert _ _ _ from rfl,
      NameMap.get?_insert] at ht
    split at ht
    · cases ht
      exact accepted_of_ofFragment hof
    · exact ih ht

end ParameterTypes

end StepPhrase
