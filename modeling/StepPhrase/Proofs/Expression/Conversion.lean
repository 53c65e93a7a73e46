import StepPhrase.Proofs.Expression.Agreement
import StepPhrase.Proofs.Scalar.Reading

/-! Which captured texts the types that stand ready convert. -/
namespace StepPhrase

open Regex Text Lexeme

variable {κ : Type} [RecordKind κ] {config : ExpressionConfig} {pattern text : String}
  {type : ParameterType κ} {p : Placeholder} {tokens : List Token} {pieces : List (Piece κ)}
  {e : Expression κ} {s : List Char} {texts : List String} {next : Nat}

namespace ParameterType

/-- The hints whose fragments take digits and letters beyond ASCII, but whose values are read from
ASCII. -/
def asciiHints : List (Option String) := [some "f32", some "f64", some "bool"]

end ParameterType

open ParameterType

theorem ParameterTypes.notMem_asciiHints {hint : String}
    (h : (builtin : ParameterTypes κ).get? hint = none) : some hint ∉ asciiHints := by
  intro hmem
  apply notMem_builtinNames h
  simp only [asciiHints, List.mem_cons, Option.some.injEq, List.not_mem_nil, or_false] at hmem
  rcases hmem with rfl | rfl | rfl
  · decide
  · decide
  · decide

/-- Of the types that are not integers, floats and truth values convert what is in ASCII, and texts
and words everything. -/
theorem Piece.convert_eq_ok_iff
    (h : (resolve (.builtin : ParameterTypes κ) config p).value = .ok type)
    (hint : ∀ t : IntType, p.hint ≠ some t.name) (hw : language p.hint text.toList) :
    (∃ value, type.convert text = .ok value) ↔ (p.hint ∈ asciiHints → IsAscii text.toList) := by
  rcases resolve_eq_ok h with ⟨name, hname, ht⟩ | ⟨hhint | ⟨name, hname, hnone⟩, -, rfl⟩
  · rw [hname] at hint hw ⊢
    rcases ParameterTypes.eq_of_get?_builtin ht with
      ⟨t, rfl, rfl⟩ | ⟨t, rfl, rfl⟩ | ⟨rfl, rfl⟩ | ⟨rfl, rfl⟩ | ⟨rfl, rfl⟩
    · exact absurd rfl (hint t)
    · have hfloat : IsFloat text.toList := by cases t <;> exact hw
      have hmem : some t.name ∈ asciiHints := by cases t <;> decide
      rw [← Cell.float_eq_ok_iff (t := t) hfloat, forall_prop_of_true hmem]
      exact exists_map_eq_ok_iff
    · exact iff_of_true ⟨_, rfl⟩ fun hmem => absurd hmem (by decide)
    · exact iff_of_true ⟨_, rfl⟩ fun hmem => absurd hmem (by decide)
    · have hmem : some "bool" ∈ asciiHints := by decide
      rw [← Cell.bool_eq_ok_iff hw, forall_prop_of_true hmem]
      exact exists_map_eq_ok_iff
  · rw [hhint]
    exact iff_of_true ⟨_, rfl⟩ fun hmem => absurd hmem (by decide)
  · rw [hname]
    exact iff_of_true ⟨_, rfl⟩ fun hmem => absurd hmem (ParameterTypes.notMem_asciiHints hnone)

namespace Expression

theorem arguments_cons_eq_ok_iff {slot : Slot κ} {slots : List (Slot κ)} :
    (∃ args, arguments (slot :: slots) (text :: texts) = .ok args) ↔
      (∃ value, slot.type.convert text = .ok value) ∧ ∃ args, arguments slots texts = .ok args := by
  simp only [arguments_cons, bind_eq_ok_iff, Slot.argument, ParameterType.value, map_eq_ok_iff,
    mapError_eq_ok_iff]
  constructor
  · rintro ⟨_, _, ⟨value, hvalue, -⟩, rest, hrest, -⟩
    exact ⟨⟨value, hvalue⟩, rest, hrest⟩
  · rintro ⟨⟨value, hvalue⟩, rest, hrest⟩
    exact ⟨_, _, ⟨value, hvalue, rfl⟩, rest, hrest, rfl⟩

theorem arguments_eq_ok_iff (h : Piece.Resolved (.builtin : ParameterTypes κ) config tokens pieces)
    (hint : ∀ p ∈ Token.placeholders tokens, ∀ t : IntType, p.hint ≠ some t.name)
    (hcut : Token.Cut tokens s texts) :
    (∃ args, arguments (Slot.number next (pieces.filterMap Piece.slot?)) texts = .ok args) ↔
      ∀ q ∈ (Token.placeholders tokens).zip texts, q.1.hint ∈ asciiHints → IsAscii q.2.toList := by
  induction h generalizing next s texts with
  | nil =>
    cases hcut
    exact iff_of_true ⟨[], rfl⟩ (by simp [Token.placeholders])
  | literal h ih =>
    cases hcut with
    | literal hcut => exact ih hint hcut
  | openBrace h ih =>
    cases hcut with
    | openBrace hcut => exact ih hint hcut
  | closeBrace h ih =>
    cases hcut with
    | closeBrace hcut => exact ih hint hcut
  | @placeholder p type tokens pieces htype h ih =>
    cases hcut with
    | placeholder hw hcut =>
      obtain ⟨hp, hrest⟩ := List.forall_mem_cons.1 hint
      refine arguments_cons_eq_ok_iff.trans ((and_congr ?_ (ih hrest hcut)).trans
        List.forall_mem_cons.symm)
      exact Piece.convert_eq_ok_iff htype hp (by rwa [String.toList_ofList])

/-- Without placeholders for integers, a text that is matched is refused just if a float or a truth
value among its captures has characters beyond ASCII. -/
theorem match?_eq_some_iff_ascii
    (h : (compile (.builtin : ParameterTypes κ) config pattern).value = .ok e)
    (htokens : Token.ofPattern pattern = .ok tokens)
    (hint : ∀ p ∈ Token.placeholders tokens, ∀ t : IntType, p.hint ≠ some t.name) (text : String) :
    e.match? text = .ok none ∨ ∃ texts, Token.Cut tokens text.toList texts ∧
      e.regex.select? (e.slots.map (·.group)) text = some texts ∧
      ((∃ args, e.match? text = .ok (some args)) ↔
        ∀ q ∈ (Token.placeholders tokens).zip texts, q.1.hint ∈ asciiHints → IsAscii q.2.toList) := by
  obtain ⟨tokens', pieces, htokens', -, hmade⟩ := exists_madeOf h
  cases htokens.symm.trans htokens'
  cases hc : e.regex.captures? text with
  | none => exact .inl (match?_eq_none.2 hc)
  | some c =>
    have hselect : e.regex.select? (e.slots.map (·.group)) text =
        some ((e.slots.map (·.group)).map c.textOf) := by
      rw [Regex.select?, hc]
      rfl
    have hcut : Token.Cut tokens text.toList ((e.slots.map (·.group)).map c.textOf) := by
      rw [hmade.map_group_eq_iff.2 hmade.aligned]
      exact (Piece.cut_iff hmade.resolved).1
        (Piece.cut_of_captures? hmade.resolved.readable hmade.regex hc).2
    refine .inr ⟨_, hcut, hselect, ?_⟩
    rw [← arguments_eq_ok_iff hmade.resolved hint hcut, ← hmade.slots, match?_of_captures? hc]
    simp only [map_eq_ok_iff, Option.some.injEq, exists_eq_right]

/-- The long `s` is an `s` to the fragment, but not to the conversion. -/
theorem match?_long_s : ∃ e : Expression Suite.RecordType,
    (compile .builtin {} "{on:bool}").value = .ok e ∧
      e.match? "falſe" ≠ .ok none ∧ (¬ ∃ args, e.match? "falſe" = .ok (some args)) ∧
      ∃ args, e.match? "FALSE" = .ok (some args) := by
  obtain ⟨e, he, hlong, hcapital⟩ : ∃ e : Expression Suite.RecordType,
      (compile .builtin {} "{on:bool}").value = .ok e ∧
        e.regex.select? (e.slots.map (·.group)) "falſe" = some ["falſe"] ∧
        e.regex.select? (e.slots.map (·.group)) "FALSE" = some ["FALSE"] :=
    exists_ok_of_any (by decide +kernel)
  have hscan : Token.ofPattern "{on:bool}" = .ok [.placeholder ⟨"on", some "bool", 0⟩] := by
    decide +kernel
  have hint : ∀ p ∈ Token.placeholders [.placeholder ⟨"on", some "bool", 0⟩],
      ∀ t : IntType, p.hint ≠ some t.name := by
    intro p hp t
    cases List.mem_singleton.1 hp
    cases t <;> decide
  refine ⟨e, he, match?_ne_none_of_select? hlong, ?_, ?_⟩
  · obtain ⟨texts, -, hselect, hiff⟩ := (match?_eq_some_iff_ascii he hscan hint "falſe").resolve_left
      (match?_ne_none_of_select? hlong)
    cases hlong.symm.trans hselect
    rw [hiff]
    exact fun h => absurd (h _ List.mem_cons_self (by decide)) (by decide)
  · obtain ⟨texts, -, hselect, hiff⟩ := (match?_eq_some_iff_ascii he hscan hint "FALSE").resolve_left
      (match?_ne_none_of_select? hcapital)
    cases hcapital.symm.trans hselect
    rw [hiff]
    intro q hq _
    cases List.mem_singleton.1 hq
    decide

end Expression

end StepPhrase
