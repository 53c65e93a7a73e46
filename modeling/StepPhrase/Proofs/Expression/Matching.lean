import StepPhrase.Proofs.Expression.Alignment

/-! The texts that expressions match under the types that stand ready. -/
namespace StepPhrase

open Regex

variable {κ : Type} [RecordKind κ] {config : ExpressionConfig} {pattern : String}
  {e : Expression κ} {tokens : List Token} {pieces : List (Piece κ)} {pre s : List Char}
  {args : List String} {text : String}

namespace Token

/-- The tokens take up the text one after the other, the placeholders each a text of its type. The
last argument lists what the placeholders take. -/
inductive Cut : List Token → List Char → List String → Prop
  | nil : Cut [] [] []
  | literal {text rest : List Char} {tokens : List Token} {args : List String} :
    Cut tokens rest args → Cut (literal text :: tokens) (text ++ rest) args
  | openBrace {position : Nat} {rest : List Char} {tokens : List Token} {args : List String} :
    Cut tokens rest args → Cut (openBrace position :: tokens) ('{' :: rest) args
  | closeBrace {position : Nat} {rest : List Char} {tokens : List Token} {args : List String} :
    Cut tokens rest args → Cut (closeBrace position :: tokens) ('}' :: rest) args
  | placeholder {p : Placeholder} {w rest : List Char} {tokens : List Token}
    {args : List String} :
    ParameterType.language p.hint w → Cut tokens rest args →
      Cut (placeholder p :: tokens) (w ++ rest) (String.ofList w :: args)

/-- The text of the tokens with arguments in the place of placeholders. -/
def fill : List Token → List String → List Char
  | literal text :: tokens, args => text ++ fill tokens args
  | openBrace _ :: tokens, args => '{' :: fill tokens args
  | closeBrace _ :: tokens, args => '}' :: fill tokens args
  | placeholder _ :: tokens, arg :: args => arg.toList ++ fill tokens args
  | _, _ => []

theorem Cut.fill_eq (h : Cut tokens s args) : fill tokens args = s := by
  induction h with
  | nil => rfl
  | literal h ih => simp [fill, ih]
  | openBrace h ih => simp [fill, ih]
  | closeBrace h ih => simp [fill, ih]
  | placeholder hw h ih => simp [fill, ih]

end Token

namespace Piece

/-- Under the types that stand ready, what pieces take up is what their tokens take up. -/
theorem cut_iff (h : Resolved (.builtin : ParameterTypes κ) config tokens pieces) :
    Cut pieces pre s args ↔ Token.Cut tokens s args := by
  induction h generalizing pre s args with
  | nil =>
    constructor
    · intro hcut
      cases hcut
      exact .nil
    · intro hcut
      cases hcut
      exact .nil
  | literal h ih =>
    constructor
    · intro hcut
      cases hcut with
      | literal hrest => exact .literal (ih.1 hrest)
    · intro hcut
      cases hcut with
      | literal hrest => exact .literal (ih.2 hrest)
  | openBrace h ih =>
    constructor
    · intro hcut
      cases hcut with
      | literal hrest => exact .openBrace (ih.1 hrest)
    · intro hcut
      cases hcut with
      | openBrace hrest => exact .literal (ih.2 hrest)
  | closeBrace h ih =>
    constructor
    · intro hcut
      cases hcut with
      | literal hrest => exact .closeBrace (ih.1 hrest)
    · intro hcut
      cases hcut with
      | closeBrace hrest => exact .literal (ih.2 hrest)
  | placeholder htype h ih =>
    have hlanguage := (ready_of_resolve_builtin htype).fragment.language
    constructor
    · intro hcut
      cases hcut with
      | slot hw hrest => exact .placeholder (hlanguage.consumes_iff.1 hw) (ih.1 hrest)
    · intro hcut
      cases hcut with
      | placeholder hw hrest => exact .slot (hlanguage.consumes_iff.2 hw) (ih.2 hrest)

theorem Resolved.readable (h : Resolved (.builtin : ParameterTypes κ) config tokens pieces) :
    Readable pieces :=
  h.forall_slot fun _ _ htype =>
    have hready := ready_of_resolve_builtin htype
    ⟨hready.fragment.whole, hready.fragment.closes⟩

end Piece

namespace Expression

theorem MadeOf.aligned (h : e.MadeOf .builtin config tokens pieces) : e.Aligned := by
  intro s hs
  obtain ⟨name, hslot⟩ := h.exists_slot_of_mem (List.dropLast_subset _ hs)
  have hcounts : ∀ name type, Piece.slot name type ∈ pieces → type.innerGroups = type.opened :=
    h.resolved.forall_slot fun _ _ htype =>
      have hready := Piece.ready_of_resolve_builtin htype
      hready.inner.trans hready.fragment.opened.symm
  exact hcounts name _ hslot

/-- Under the types that stand ready an expression matches just the texts that can be cut up along
its tokens, and the texts of its arguments are those of the placeholders in such a cut. -/
theorem match?_ne_none_iff_cut
    (h : (compile (.builtin : ParameterTypes κ) config pattern).value = .ok e) :
    ∃ tokens, Token.ofPattern pattern = .ok tokens ∧ ∀ text,
      (e.match? text ≠ .ok none ↔ ∃ args, Token.Cut tokens text.toList args) ∧
        ∀ args, e.match? text = .ok (some args) →
          Token.Cut tokens text.toList (args.map (·.text)) ∧
            Token.fill tokens (args.map (·.text)) = text.toList := by
  obtain ⟨tokens, pieces, htokens, -, hmade⟩ := exists_madeOf h
  have hr := hmade.resolved.readable
  refine ⟨tokens, htokens, fun text => ⟨?_, ?_⟩⟩
  · have hsome : e.match? text ≠ .ok none ↔ (e.regex.captures? text).isSome = true := by
      rw [ne_eq, match?_eq_none, Option.isSome_iff_ne_none]
    rw [hsome, Piece.isSome_captures?_iff hr hmade.regex]
    simp only [Piece.cut_iff hmade.resolved]
  · intro args hm
    have hcut := (Piece.cut_iff hmade.resolved).1 (hmade.cut_of_match? hr hmade.aligned hm)
    exact ⟨hcut, hcut.fill_eq⟩

theorem match?_cukes : ∃ e : Expression Suite.RecordType,
    (compile .builtin {} "{n:u8} cukes").value = .ok e ∧
      e.match? "3 cukes" ≠ .ok none ∧ e.match? "three cukes" = .ok none := by
  obtain ⟨e, he, -⟩ : ∃ e : Expression Suite.RecordType,
      (compile .builtin {} "{n:u8} cukes").value = .ok e ∧ True :=
    exists_ok_of_any (by decide +kernel)
  have hscan : Token.ofPattern "{n:u8} cukes" =
      .ok [.placeholder ⟨"n", some "u8", 0⟩, .literal " cukes".toList] := by decide +kernel
  obtain ⟨tokens, htokens, hmatch⟩ := match?_ne_none_iff_cut he
  cases hscan.symm.trans htokens
  refine ⟨e, he, (hmatch "3 cukes").1.2 ⟨["3"], ?_⟩, ?_⟩
  · have hdigits : Lexeme.IsDigits ['3'] := ⟨by decide, forall_mem_of_all (by decide +kernel)⟩
    exact .placeholder (p := ⟨"n", some "u8", 0⟩) hdigits (.literal .nil)
  · by_contra hsome
    obtain ⟨args, hcut⟩ := (hmatch "three cukes").1.1 hsome
    generalize htext : "three cukes".toList = text at hcut
    cases hcut with
    | placeholder hw hrest =>
      rename_i w rest args
      cases hrest with
      | literal hrest =>
        cases hrest
        have hthree : "three".toList = w := List.append_cancel_right htext
        subst hthree
        exact absurd (hw.2 't' (by decide)) (by decide +kernel)

end Expression

end StepPhrase
