import StepPhrase.Proofs.Except
import StepPhrase.Proofs.Pattern.Cut
import StepPhrase.Proofs.Pattern.Types

/-! What a compiled expression is made of, and the arguments it gives. -/
namespace StepPhrase

open Regex

variable {κ : Type} [RecordKind κ] {types : ParameterTypes κ} {type : ParameterType κ}
  {config : ExpressionConfig} {p : Placeholder} {pattern : String} {e : Expression κ}

namespace Piece

variable {tokens : List Token} {pieces : List (Piece κ)} {length depth : Nat}

/-- The pieces stand for the tokens one by one. -/
inductive Resolved (types : ParameterTypes κ) (config : ExpressionConfig) :
    List Token → List (Piece κ) → Prop
  | nil : Resolved types config [] []
  | literal {text : List Char} {tokens : List Token} {pieces : List (Piece κ)} :
    Resolved types config tokens pieces →
      Resolved types config (.literal text :: tokens) (.literal text :: pieces)
  | openBrace {position : Nat} {tokens : List Token} {pieces : List (Piece κ)} :
    Resolved types config tokens pieces →
      Resolved types config (.openBrace position :: tokens) (.literal ['{'] :: pieces)
  | closeBrace {position : Nat} {tokens : List Token} {pieces : List (Piece κ)} :
    Resolved types config tokens pieces →
      Resolved types config (.closeBrace position :: tokens) (.literal ['}'] :: pieces)
  | placeholder {p : Placeholder} {type : ParameterType κ} {tokens : List Token}
    {pieces : List (Piece κ)} :
    (resolve types config p).value = .ok type → Resolved types config tokens pieces →
      Resolved types config (.placeholder p :: tokens) (.slot p.name type :: pieces)

theorem resolved_of_ofTokens (h : (ofTokens types config length depth tokens).value = .ok pieces) :
    Resolved types config tokens pieces := by
  induction tokens generalizing depth pieces with
  | nil =>
    unfold ofTokens at h
    split at h
    · cases h
      exact .nil
    · cases h
  | cons token tokens ih =>
    cases token with
    | literal text =>
      obtain ⟨rest, hrest, rfl⟩ := map_eq_ok_iff.1 h
      exact .literal (ih hrest)
    | openBrace position =>
      obtain ⟨rest, hrest, rfl⟩ := map_eq_ok_iff.1 h
      exact .openBrace (ih hrest)
    | closeBrace position =>
      cases depth with
      | zero => cases h
      | succ depth =>
        obtain ⟨rest, hrest, rfl⟩ := map_eq_ok_iff.1 h
        exact .closeBrace (ih hrest)
    | placeholder p =>
      simp only [ofTokens, Logged.value_bind] at h
      split at h
      · cases h
      · rename_i type htype
        obtain ⟨rest, hrest, rfl⟩ := map_eq_ok_iff.1 h
        exact .placeholder htype (ih hrest)

theorem ofPattern_ok (h : (ofPattern types config pattern).value = .ok pieces) :
    ∃ tokens, Token.ofPattern pattern = .ok tokens ∧ Resolved types config tokens pieces := by
  unfold ofPattern at h
  split at h
  · cases h
  · rename_i tokens htokens
    exact ⟨tokens, htokens, resolved_of_ofTokens h⟩

theorem resolve_eq_ok (h : (resolve types config p).value = .ok type) :
    (∃ hint, p.hint = some hint ∧ types.get? hint = some type) ∨
      (p.hint = none ∨ ∃ hint, p.hint = some hint ∧ types.get? hint = none) ∧
        ∃ name, type = .text name := by
  unfold resolve at h
  split at h
  · rename_i hnone
    cases h
    exact .inr ⟨.inl hnone, _, rfl⟩
  · rename_i hint hhint
    split at h
    · rename_i t ht
      cases h
      exact .inl ⟨hint, hhint, ht⟩
    · rename_i hnone
      split at h
      · cases h
      · cases h
        exact .inr ⟨.inr ⟨hint, hhint, hnone⟩, hint, rfl⟩

/-- Where unknown hints are texts, each placeholder has a type. -/
theorem exists_of_resolve : ∃ type, (resolve types {} p).value = .ok type := by
  unfold resolve
  split
  · exact ⟨_, rfl⟩
  · split
    · exact ⟨_, rfl⟩
    · exact ⟨_, rfl⟩

theorem ready_of_resolve_builtin
    (h : (resolve (.builtin : ParameterTypes κ) config p).value = .ok type) :
    type.Ready (ParameterType.language p.hint) := by
  rcases resolve_eq_ok h with ⟨hint, hhint, ht⟩ | ⟨hhint | ⟨hint, hhint, hnone⟩, name, rfl⟩
  · rw [hhint]
    exact ParameterTypes.ready_of_get?_builtin ht
  · rw [hhint]
    exact ParameterType.ready_text
  · rw [hhint, ParameterTypes.language_of_get?_builtin hnone]
    exact ParameterType.ready_text

theorem accepted_of_resolve (hreach : types.Reachable)
    (h : (resolve types config p).value = .ok type) : type.Accepted := by
  rcases resolve_eq_ok h with ⟨hint, -, ht⟩ | ⟨-, name, rfl⟩
  · exact hreach.accepted ht
  · exact ParameterType.ready_text.accepted

/-- What holds of the type of every placeholder token holds of every slot. -/
theorem Resolved.forall_slot {P : ParameterType κ → Prop} (h : Resolved types config tokens pieces)
    (hP : ∀ p type, (resolve types config p).value = .ok type → P type) :
    ∀ name type, slot name type ∈ pieces → P type := by
  intro name type hmem
  induction h with
  | nil => cases hmem
  | literal h ih => exact ih ((List.mem_cons.1 hmem).resolve_left (by simp))
  | openBrace h ih => exact ih ((List.mem_cons.1 hmem).resolve_left (by simp))
  | closeBrace h ih => exact ih ((List.mem_cons.1 hmem).resolve_left (by simp))
  | placeholder htype h ih =>
    rcases List.mem_cons.1 hmem with heq | hmem
    · cases heq
      exact hP _ _ htype
    · exact ih hmem

end Piece

namespace Expression

/-- The expression is made of pieces that stand for the tokens of a pattern. -/
structure MadeOf (e : Expression κ) (types : ParameterTypes κ) (config : ExpressionConfig)
    (tokens : List Token) (pieces : List (Piece κ)) : Prop where
  resolved : Piece.Resolved types config tokens pieces
  regex : Regex.compile (Piece.sourceOf pieces) = .ok e.regex
  slots : e.slots = Slot.number 1 (pieces.filterMap Piece.slot?)

theorem ofPieces_eq_ok {pieces : List (Piece κ)} (h : ofPieces pattern pieces = .ok e) :
    Regex.compile (Piece.sourceOf pieces) = .ok e.regex ∧
      e.slots = Slot.number 1 (pieces.filterMap Piece.slot?) := by
  unfold ofPieces at h
  split at h
  · cases h
  · rename_i r hr
    cases h
    exact ⟨hr, rfl⟩

theorem exists_madeOf (h : (compile types config pattern).value = .ok e) :
    ∃ tokens pieces, Token.ofPattern pattern = .ok tokens ∧
      (Piece.ofPattern types config pattern).value = .ok pieces ∧
      e.MadeOf types config tokens pieces := by
  obtain ⟨pieces, hpieces, h⟩ := bind_eq_ok_iff.1 h
  obtain ⟨hregex, hslots⟩ := ofPieces_eq_ok h
  obtain ⟨tokens, htokens, hresolved⟩ := Piece.ofPattern_ok hpieces
  exact ⟨tokens, pieces, htokens, hpieces, hresolved, hregex, hslots⟩

variable {slots : List (Slot κ)} {texts : List String} {args : List (Argument κ)} {text : String}

theorem match?_of_captures? {c : Captures} (h : e.regex.captures? text = some c) :
    e.match? text =
      (arguments e.slots ((e.slots.map (·.group)).map c.textOf)).map some := by
  rw [match?, Regex.select?, h]
  rfl

theorem match?_eq_none : e.match? text = .ok none ↔ e.regex.captures? text = none := by
  cases hc : e.regex.captures? text with
  | none =>
    rw [match?, Regex.select?, hc]
    exact ⟨fun _ => rfl, fun _ => rfl⟩
  | some c =>
    rw [match?_of_captures? hc, map_eq_ok_iff]
    simp

theorem match?_ne_none_of_select? {groups : List Nat}
    (h : e.regex.select? groups text = some texts) : e.match? text ≠ .ok none := by
  intro hnone
  rw [Regex.select?, match?_eq_none.1 hnone] at h
  cases h

theorem match?_eq_some (h : e.match? text = .ok (some args)) : ∃ c, e.regex.captures? text = some c ∧
    arguments e.slots ((e.slots.map (·.group)).map c.textOf) = .ok args := by
  cases hc : e.regex.captures? text with
  | none =>
    rw [match?_eq_none.2 hc] at h
    cases h
  | some c =>
    rw [match?_of_captures? hc] at h
    obtain ⟨args', harguments, hargs⟩ := map_eq_ok_iff.1 h
    cases hargs
    exact ⟨c, rfl, harguments⟩

theorem match?_eq_error {fault : ParameterError} (h : e.match? text = .error fault) :
    ∃ c, e.regex.captures? text = some c ∧
      arguments e.slots ((e.slots.map (·.group)).map c.textOf) = .error fault := by
  cases hc : e.regex.captures? text with
  | none =>
    rw [match?_eq_none.2 hc] at h
    cases h
  | some c =>
    rw [match?_of_captures? hc] at h
    exact ⟨c, rfl, map_eq_error_iff.1 h⟩

theorem text_of_argument {slot : Slot κ} {arg : Argument κ} (h : slot.argument text = .ok arg) :
    arg.text = text := by
  obtain ⟨value, -, rfl⟩ := map_eq_ok_iff.1 h
  rfl

theorem arguments_cons {slot : Slot κ} : arguments (slot :: slots) (text :: texts) =
    (slot.argument text).bind fun arg => (arguments slots texts).map (arg :: ·) := by
  rw [arguments, List.zip_cons_cons, mapM_cons_except]
  rfl

/-- Arguments carry the texts that they were made from. -/
theorem texts_of_arguments (hlength : slots.length = texts.length)
    (h : arguments slots texts = .ok args) : args.map (·.text) = texts := by
  induction slots generalizing texts args with
  | nil =>
    cases List.length_eq_zero_iff.1 hlength.symm
    cases h
    rfl
  | cons slot slots ih =>
    obtain ⟨text, texts, rfl⟩ := List.exists_cons_of_length_eq_add_one hlength.symm
    rw [arguments_cons] at h
    obtain ⟨arg, harg, h⟩ := bind_eq_ok_iff.1 h
    obtain ⟨rest, hrest, rfl⟩ := map_eq_ok_iff.1 h
    rw [List.map_cons, text_of_argument harg, ih (Nat.succ.inj hlength) hrest]

end Expression

end StepPhrase
