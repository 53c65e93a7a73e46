import Mathlib.Data.List.Forall2
import StepPhrase.Proofs.Pattern.Hint

/-! What the expression of a pattern takes from the parameter types: those that its hints name. -/
namespace StepPhrase

variable {κ : Type} [RecordKind κ] {types types' : ParameterTypes κ} {config : ExpressionConfig}
  {p : Placeholder} {pattern : String} {e : Expression κ} {tokens : List Token}
  {pieces : List (Piece κ)} {length depth : Nat}

/-- Where the scan comes to the end, it has met the hints of the placeholders found. -/
theorem Token.hintAt_iff (h : ofPattern pattern = .ok tokens) {hint : String} {position : Nat} :
    HintAt pattern.toList hint position ↔
      ∃ p ∈ placeholders tokens, p.hint = some hint ∧ p.start = position := by
  obtain ⟨items, hall, rfl⟩ := ofPattern_eq_ok_iff.1 h
  rw [placeholders_join]
  exact hall.hintAt_iff

/-- Both give the same type, or none, for every hint of the pattern. -/
def AgreeOn (pattern : String) (types types' : ParameterTypes κ) : Prop :=
  ∀ hint position, Token.HintAt pattern.toList hint position → types.get? hint = types'.get? hint

namespace Piece

theorem resolve_congr (h : ∀ hint, p.hint = some hint → types.get? hint = types'.get? hint) :
    resolve types config p = resolve types' config p := by
  unfold resolve
  cases hp : p.hint with
  | none => rfl
  | some hint => simp only [h hint hp]

/-- Induction over the tokens: only a placeholder asks for a type. -/
theorem ofTokens_congr (h : ∀ p ∈ Token.placeholders tokens, ∀ hint, p.hint = some hint →
    types.get? hint = types'.get? hint) :
    ofTokens types config length depth tokens = ofTokens types' config length depth tokens := by
  induction tokens generalizing depth with
  | nil => rfl
  | cons token tokens ih =>
    cases token with
    | literal text =>
      rw [ofTokens, ofTokens, ih h]
    | openBrace position =>
      rw [ofTokens, ofTokens, ih h]
    | closeBrace position =>
      cases depth with
      | zero => rfl
      | succ depth =>
        rw [ofTokens, ofTokens, ih h]
    | placeholder p =>
      rw [Token.placeholders_cons] at h
      obtain ⟨hp, hrest⟩ := List.forall_mem_append.1 h
      rw [ofTokens, ofTokens, resolve_congr (hp p (by simp [Token.placeholder?])), ih hrest]

theorem ofPattern_congr (h : AgreeOn pattern types types') :
    ofPattern types config pattern = ofPattern types' config pattern := by
  unfold ofPattern
  cases htokens : Token.ofPattern pattern with
  | error e => rfl
  | ok tokens =>
    apply ofTokens_congr
    intro p hp hint hhint
    exact h hint p.start ((Token.hintAt_iff htokens).2 ⟨p, hp, hhint, rfl⟩)

end Piece

namespace Expression

theorem compile_congr (h : AgreeOn pattern types types') :
    compile types config pattern = compile types' config pattern := by
  unfold compile
  rw [Piece.ofPattern_congr h]

end Expression

/-- The placeholders of the pieces have the names of the tokens, and the types that the hints are
resolved to. -/
theorem Piece.Resolved.forall₂_slot? (h : Resolved types config tokens pieces) :
    List.Forall₂ (fun p s => s.1 = p.name ∧ (resolve types config p).value = .ok s.2)
      (Token.placeholders tokens) (pieces.filterMap slot?) := by
  induction h with
  | nil => exact .nil
  | literal h ih => exact ih
  | openBrace h ih => exact ih
  | closeBrace h ih => exact ih
  | placeholder htype h ih => exact .cons ⟨rfl, htype⟩ ih

section Slots

variable {α : Type} {xs : List α}

theorem Slot.forall₂_number {R : α → String × ParameterType κ → Prop} {next : Nat}
    {slots : List (String × ParameterType κ)} (h : List.Forall₂ R xs slots) :
    List.Forall₂ (fun x s => R x (s.name, s.type)) xs (number next slots) := by
  induction h generalizing next with
  | nil => exact .nil
  | cons hx h ih => exact .cons hx ih

theorem Expression.forall₂_arguments {R : α → Slot κ → Prop} {slots : List (Slot κ)}
    {texts : List String} {args : List (Argument κ)} (h : List.Forall₂ R xs slots)
    (hlength : slots.length = texts.length) (hargs : arguments slots texts = .ok args) :
    List.Forall₂ (fun x a => ∃ s, R x s ∧ s.argument a.text = .ok a) xs args := by
  induction h generalizing texts args with
  | nil =>
    cases hargs
    exact .nil
  | @cons x slot xs slots hx h ih =>
    obtain ⟨text, texts, rfl⟩ := List.exists_cons_of_length_eq_add_one hlength.symm
    rw [arguments_cons] at hargs
    obtain ⟨arg, harg, hargs⟩ := bind_eq_ok_iff.1 hargs
    obtain ⟨rest, hrest, rfl⟩ := map_eq_ok_iff.1 hargs
    refine .cons ⟨slot, hx, ?_⟩ (ih (Nat.succ.inj hlength) hrest)
    rw [text_of_argument harg, harg]

end Slots

theorem Piece.resolve_of_hint_eq_none (h : p.hint = none) :
    (resolve types config p).value = .ok (.text "String") := by
  unfold resolve
  rw [h]
  rfl

namespace Expression

variable {text : String} {args : List (Argument κ)}

/-- A slot of plain text for each placeholder without a hint. -/
theorem forall₂_slots (htokens : Token.ofPattern pattern = .ok tokens)
    (h : (compile types config pattern).value = .ok e) :
    List.Forall₂ (fun p s => p.hint = none → s.name = p.name ∧ s.type = .text "String")
      (Token.placeholders tokens) e.slots := by
  obtain ⟨tokens', pieces, htokens', -, hmade⟩ := exists_madeOf h
  cases htokens.symm.trans htokens'
  rw [hmade.slots]
  refine (Slot.forall₂_number hmade.resolved.forall₂_slot?).imp ?_
  rintro p s ⟨hname, htype⟩ hhint
  rw [Piece.resolve_of_hint_eq_none hhint] at htype
  exact ⟨hname, (Except.ok.inj htype).symm⟩

/-- An argument of plain text for each placeholder without a hint. -/
theorem forall₂_match? (htokens : Token.ofPattern pattern = .ok tokens)
    (h : (compile types config pattern).value = .ok e) (hm : e.match? text = .ok (some args)) :
    List.Forall₂ (fun p a => p.hint = none → a = ⟨p.name, "String", a.text, ⟨.text, a.text⟩⟩)
      (Token.placeholders tokens) args := by
  obtain ⟨c, -, hargs⟩ := match?_eq_some hm
  refine (forall₂_arguments (forall₂_slots htokens h) (by simp) hargs).imp ?_
  rintro p a ⟨⟨name, type, group⟩, hslot, harg⟩ hhint
  obtain ⟨rfl, rfl⟩ := hslot hhint
  exact (Except.ok.inj harg).symm

end Expression

end StepPhrase
