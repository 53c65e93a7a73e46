import StepPhrase.Proofs.Expression.Agreement
import StepPhrase.Proofs.Pattern.Scan

/-! Patterns that stand for exactly one text. -/
namespace StepPhrase

open Regex

variable {κ : Type} [RecordKind κ] {types : ParameterTypes κ} {config : ExpressionConfig}
  {spell : Char → List Char} {pre s rest : List Char} {items : List Token} {pattern text : String}

namespace Token

/-- A character with a backslash before it if it is a backslash or a brace. -/
def slashed (c : Char) : List Char := if c = '\\' ∨ c = '{' ∨ c = '}' then ['\\', c] else [c]

/-- A character with a backslash before it if it is one, and twice if it is a brace. -/
def doubled (c : Char) : List Char :=
  if c = '\\' then ['\\', c] else if c = '{' ∨ c = '}' then [c, c] else [c]

/-- The tokens of a text without braces and backslashes. -/
def ofLiteral : List Char → List Token
  | [] => []
  | c :: s => [literal (c :: s)]

/-- Each character is written so that the scan takes it as it is, whatever comes after. -/
def Spells (spell : Char → List Char) : Prop :=
  ∀ position c rest, Next position (spell c) (literal [c]) rest

theorem spells_slashed : Spells slashed := by
  intro position c rest
  unfold slashed
  split
  · exact .escaped
  · rename_i hc
    simp only [not_or] at hc
    exact .plain hc.1 hc.2.1 hc.2.2

theorem spells_doubled : Spells doubled := by
  intro position c rest
  unfold doubled
  split
  · exact .escaped
  · split
    · rename_i hc
      exact .doubled hc
    · rename_i hback hc
      simp only [not_or] at hc
      exact .plain hback hc.1 hc.2

theorem Scanned.spelled (h : Scanned pre items (s.flatMap spell ++ rest)) (hspell : Spells spell) :
    Scanned (pre ++ s.flatMap spell) (items ++ s.map fun c => literal [c]) rest := by
  induction s generalizing pre items with
  | nil => simpa using h
  | cons c s ih =>
    rw [List.flatMap_cons, List.append_assoc] at h
    simpa using ih (h.next (hspell _ _ _))

theorem join_literals : (s.map fun c => literal [c]).foldr join [] = ofLiteral s := by
  induction s with
  | nil => rfl
  | cons c s ih =>
    rw [List.map_cons, List.foldr_cons, ih]
    cases s with
    | nil => rfl
    | cons d s => rfl

theorem ofPattern_spelled (hspell : Spells spell) :
    ofPattern (String.ofList (s.flatMap spell)) = .ok (ofLiteral s) := by
  have hstart : Scanned [] [] (s.flatMap spell ++ []) := .start
  have hall : Scanned (String.ofList (s.flatMap spell)).toList
      (s.map fun c => literal [c]) [] := by
    simpa using hstart.spelled hspell
  rw [ofPattern_of_scanned hall, join_literals]

end Token

namespace Piece

/-- The pieces of a text that stands for itself. -/
def ofLiteral : List Char → List (Piece κ)
  | [] => []
  | c :: s => [literal (c :: s)]

theorem ofPattern_spelled (hspell : Token.Spells spell) :
    (ofPattern types config (String.ofList (s.flatMap spell))).value = .ok (ofLiteral s) := by
  rw [ofPattern, Token.ofPattern_spelled hspell]
  cases s with
  | nil => rfl
  | cons c s => rfl

theorem sourceOf_ofLiteral : sourceOf (ofLiteral s : List (Piece κ)) =
    "^" ++ String.ofList (escape s) ++ "$" := by
  cases s with
  | nil => rfl
  | cons c s => simp [sourceOf, ofLiteral, source, String.join]

theorem slot?_ofLiteral : (ofLiteral s : List (Piece κ)).filterMap slot? = [] := by
  cases s with
  | nil => rfl
  | cons c s => rfl

theorem slot_notMem_ofLiteral {name : String} {type : ParameterType κ} :
    slot name type ∉ ofLiteral s := by
  cases s with
  | nil => simp [ofLiteral]
  | cons c s => simp [ofLiteral]

theorem ofText?_ofLiteral : Node.ofText? (sourceOf (ofLiteral s : List (Piece κ))).toList =
    some (tree (ofLiteral s : List (Piece κ))) := by
  have hnone : ∀ {P : ParameterType κ → Prop} name type, slot name type ∈ ofLiteral s → P type :=
    fun name type h => absurd h slot_notMem_ofLiteral
  have hheight : (readingOf (ofLiteral s : List (Piece κ))).body.height ≤ 0 + 2 :=
    height_readingOf_le hnone
  exact ofText?_sourceOf hnone (names_readingOf hnone) (Nat.le_trans hheight (by decide))

theorem cut_ofLiteral_iff {args : List String} :
    Cut (ofLiteral s : List (Piece κ)) pre rest args ↔ rest = s ∧ args = [] := by
  cases s with
  | nil =>
    constructor
    · intro h
      cases h
      exact ⟨rfl, rfl⟩
    · rintro ⟨rfl, rfl⟩
      exact .nil
  | cons c s =>
    constructor
    · intro h
      cases h with
      | literal h =>
        cases h
        exact ⟨List.append_nil _, rfl⟩
    · rintro ⟨rfl, rfl⟩
      have h : Cut [(literal (c :: s) : Piece κ)] pre ((c :: s) ++ []) [] := .literal .nil
      rwa [List.append_nil] at h

end Piece

namespace Expression

/-- Whatever is registered, the pattern has no placeholders or stray braces, and its expression
matches just the text, unless it is too big. -/
structure StandsFor (types : ParameterTypes κ) (config : ExpressionConfig)
    (pattern text : String) : Prop where
  tokens : Token.ofPattern pattern = .ok (Token.ofLiteral text.toList)
  source : (Piece.ofPattern types config pattern).value.map Piece.sourceOf =
    .ok ("^" ++ String.ofList (escape text.toList) ++ "$")
  result : (compile types config pattern).value = .error (.regex .tooBig) ∨
    ∃ e, (compile types config pattern).value = .ok e ∧
      ∀ t, e.match? t = if t = text then .ok (some []) else .ok none

theorem match?_of_literal {e : Expression κ} (hslots : e.slots = [])
    (hregex : Regex.compile (Piece.sourceOf (Piece.ofLiteral text.toList : List (Piece κ))) =
      .ok e.regex) (t : String) :
    e.match? t = if t = text then .ok (some []) else .ok none := by
  have hreadable : Piece.Readable (Piece.ofLiteral text.toList : List (Piece κ)) :=
    fun name type h => absurd h Piece.slot_notMem_ofLiteral
  have hsome : (e.regex.captures? t).isSome = true ↔ t = text := by
    rw [Piece.isSome_captures?_iff hreadable hregex]
    simp only [Piece.cut_ofLiteral_iff, exists_eq_right, String.toList_inj]
  split
  · rename_i ht
    obtain ⟨c, hc⟩ := Option.isSome_iff_exists.1 (hsome.2 ht)
    rw [match?_of_captures? hc, hslots]
    rfl
  · rename_i ht
    have hnone : e.regex.captures? t = none := by simpa using mt hsome.1 ht
    exact match?_eq_none.2 hnone

theorem result_of_literal (h : (Piece.ofPattern types config pattern).value =
    .ok (Piece.ofLiteral text.toList)) :
    (compile types config pattern).value = .error (.regex .tooBig) ∨
      ∃ e, (compile types config pattern).value = .ok e ∧
        ∀ t, e.match? t = if t = text then .ok (some []) else .ok none := by
  have hcompile : (compile types config pattern).value =
      ofPieces pattern (Piece.ofLiteral text.toList) := by
    show (Piece.ofPattern types config pattern).value.bind (ofPieces pattern) = _
    rw [h]
    rfl
  rw [hcompile, ofPieces]
  cases hregex : Regex.compile (Piece.sourceOf (Piece.ofLiteral text.toList : List (Piece κ))) with
  | error fault =>
    cases Regex.eq_tooBig_of_compile Piece.ofText?_ofLiteral hregex
    exact .inl rfl
  | ok r =>
    refine .inr ⟨_, rfl, match?_of_literal ?_ hregex⟩
    rw [Piece.slot?_ofLiteral]
    rfl

theorem standsFor_spelled (hspell : Token.Spells spell) :
    StandsFor types config (String.ofList (text.toList.flatMap spell)) text where
  tokens := Token.ofPattern_spelled hspell
  source := by
    rw [Piece.ofPattern_spelled hspell]
    exact congrArg Except.ok Piece.sourceOf_ofLiteral
  result := result_of_literal (Piece.ofPattern_spelled hspell)

/-- A text that is escaped in either way is a pattern for exactly that text. -/
theorem standsFor_escaped (types : ParameterTypes κ) (config : ExpressionConfig) (text : String) :
    StandsFor types config (String.ofList (text.toList.flatMap Token.slashed)) text ∧
      StandsFor types config (String.ofList (text.toList.flatMap Token.doubled)) text :=
  ⟨standsFor_spelled Token.spells_slashed, standsFor_spelled Token.spells_doubled⟩

end Expression

end StepPhrase
