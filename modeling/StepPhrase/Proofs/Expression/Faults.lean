import StepPhrase.Proofs.Expression.Compiled
import StepPhrase.Proofs.Pattern.Scan
import StepPhrase.Suite.Record

/-! Which patterns have no regular expression, which fault is told of them, and at which byte. -/
namespace StepPhrase

open Text

variable {κ : Type} [RecordKind κ] {types : ParameterTypes κ} {length depth : Nat}
  {tokens items : List Token} {s : List Char} {pattern : String} {error : PatternError}

namespace Token

/-- The token is a stray opening brace. -/
def Opens (t : Token) : Prop := ∃ position, t = openBrace position

/-- The token is a stray closing brace. -/
def Closes (t : Token) : Prop := ∃ position, t = closeBrace position

/-- What is wrong with a pattern. A malformed placeholder that the scan meets comes before all
braces; then the first stray closing brace counts before which no stray brace is open; and then a
stray brace that is left open. Positions are lengths of what comes before. -/
inductive Faulty (s : List Char) : PlaceholderError → Prop
  | malformed {pre body name : List Char} {items : List Token} {fault : BraceFault} :
    s = pre ++ '{' :: body → Scanned pre items ('{' :: body) →
      Placeholder.Malformed body name fault →
      Faulty s ⟨fault, byteLength pre, some (String.ofList name)⟩
  | unmatched {pre post : List Char} {all before : List Token} :
    Scanned s all [] → s = pre ++ '}' :: post → Scanned pre before ('}' :: post) →
      (∀ c ∈ post.head?, c ≠ '}') → Balanced Opens Closes before →
      Faulty s ⟨.unmatchedClose, byteLength pre, none⟩
  | unbalanced {all : List Token} :
    Scanned s all [] →
      (∀ before position after, all = before ++ closeBrace position :: after →
        ¬Balanced Opens Closes before) →
      Unclosed Opens Closes all → Faulty s ⟨.unbalanced, byteLength s, none⟩

variable {position : Nat}

theorem not_opens_literal : ¬Opens (literal s) := by
  rintro ⟨position, h⟩
  cases h

theorem not_closes_literal : ¬Closes (literal s) := by
  rintro ⟨position, h⟩
  cases h

theorem not_opens_placeholder {p : Placeholder} : ¬Opens (placeholder p) := by
  rintro ⟨position, h⟩
  cases h

theorem not_closes_placeholder {p : Placeholder} : ¬Closes (placeholder p) := by
  rintro ⟨position, h⟩
  cases h

theorem not_closes_openBrace : ¬Closes (openBrace position) := by
  rintro ⟨position, h⟩
  cases h

theorem not_opens_closeBrace : ¬Opens (closeBrace position) := by
  rintro ⟨position, h⟩
  cases h

end Token

open Token

namespace Piece

theorem ofTokens_literal_eq_error_iff :
    (ofTokens types {} length depth (Token.literal s :: tokens)).value = .error error ↔
      (ofTokens types {} length depth tokens).value = .error error := by
  exact map_eq_error_iff

/-- Joined literals change nothing for braces. -/
theorem ofTokens_prepend_eq_error_iff {c : Char} :
    (ofTokens types {} length depth (prepend c tokens)).value = .error error ↔
      (ofTokens types {} length depth tokens).value = .error error := by
  cases tokens with
  | nil => exact ofTokens_literal_eq_error_iff
  | cons token tokens =>
    cases token with
    | literal s => exact ofTokens_literal_eq_error_iff.trans ofTokens_literal_eq_error_iff.symm
    | placeholder p => exact ofTokens_literal_eq_error_iff
    | openBrace position => exact ofTokens_literal_eq_error_iff
    | closeBrace position => exact ofTokens_literal_eq_error_iff

theorem ofTokens_join_eq_error_iff :
    (ofTokens types {} length depth (items.foldr join [])).value = .error error ↔
      (∃ position, Unopened Opens Closes depth items (closeBrace position) ∧
        error = .placeholder ⟨.unmatchedClose, position, none⟩) ∨
      (∀ b, ¬Unopened Opens Closes depth items b) ∧ ¬Closing Opens Closes depth items ∧
        error = .placeholder ⟨.unbalanced, length, none⟩ := by
  induction items generalizing depth with
  | nil =>
    have hnone : ∀ b, ¬Unopened Opens Closes depth [] b := by
      rintro b ⟨before, after, hxs, -⟩
      cases before <;> cases hxs
    simp only [List.foldr_nil, ofTokens, closing_nil, hnone, not_false_eq_true, implies_true,
      false_and, exists_false, false_or, true_and]
    split
    · simp [*]
    · simp [*, eq_comm]
  | cons token items ih =>
    rw [List.foldr_cons]
    cases token with
    | literal s =>
      simp only [unopened_cons_plain not_opens_literal not_closes_literal,
        closing_cons_plain not_opens_literal not_closes_literal, ← ih, join]
      induction s with
      | nil => rfl
      | cons c s ihs => exact ofTokens_prepend_eq_error_iff.trans ihs
    | placeholder p =>
      obtain ⟨type, htype⟩ : ∃ type, (resolve types {} p).value = .ok type := exists_of_resolve
      simp only [unopened_cons_plain not_opens_placeholder not_closes_placeholder,
        closing_cons_plain not_opens_placeholder not_closes_placeholder, ← ih, join, ofTokens,
        Logged.value_bind, htype]
      exact map_eq_error_iff
    | openBrace position =>
      have hopen : Opens (openBrace position) := ⟨position, rfl⟩
      simp only [unopened_cons_open hopen not_closes_openBrace,
        closing_cons_open hopen not_closes_openBrace, ← ih]
      exact map_eq_error_iff
    | closeBrace position =>
      have hclose : Closes (closeBrace position) := ⟨position, rfl⟩
      cases depth with
      | zero =>
        have hfirst : ∀ b, Unopened Opens Closes 0 (closeBrace position :: items) b ↔
            closeBrace position = b := fun b => unopened_zero_cons_close not_opens_closeBrace hclose
        simp only [hfirst, join, ofTokens]
        constructor
        · intro h
          cases h
          exact .inl ⟨position, rfl, rfl⟩
        · rintro (⟨position, hposition, rfl⟩ | ⟨hnone, -⟩)
          · cases hposition
            rfl
          · exact absurd rfl (hnone (closeBrace position))
      | succ depth =>
        simp only [unopened_cons_close not_opens_closeBrace hclose,
          closing_cons_close not_opens_closeBrace hclose, ← ih]
        exact map_eq_error_iff

theorem ofPattern_of_scanned (h : Scanned pattern.toList items []) :
    (ofPattern types {} pattern).value =
      (ofTokens types {} (byteLength pattern.toList) 0 (items.foldr join [])).value := by
  rw [ofPattern, Token.ofPattern_of_scanned h]

end Piece

/-- A stray closing brace is a token of its own where the scan meets it. -/
theorem Token.Scanned.closeBrace {pre post : List Char} {before : List Token}
    (h : Scanned pre before ('}' :: post)) (hpost : ∀ c ∈ post.head?, c ≠ '}') :
    Scanned (pre ++ ['}']) (before ++ [closeBrace (byteLength pre)]) post :=
  h.next (.closeBrace hpost)

/-- The scan stood before each stray closing brace that it found. -/
theorem Token.Scanned.exists_closeBrace {pre rest : List Char} {before after : List Token}
    {position : Nat} (h : Scanned pre (before ++ Token.closeBrace position :: after) rest) :
    ∃ pre' post, pre ++ rest = pre' ++ '}' :: post ∧ Scanned pre' before ('}' :: post) ∧
      (∀ c ∈ post.head?, c ≠ '}') ∧ position = byteLength pre' := by
  obtain ⟨pre', taken, post, hs, hscanned, hnext⟩ := h.exists_next
  cases hnext with
  | closeBrace hpost => exact ⟨pre', post, hs, hscanned, hpost, rfl⟩

/-- A pattern has no regular expression just if something is wrong with it, and that is told. -/
theorem sourceOfPattern_eq_error_iff : sourceOfPattern κ pattern = .error error ↔
    ∃ fault, error = .placeholder fault ∧ Token.Faulty pattern.toList fault := by
  rw [sourceOfPattern, map_eq_error_iff]
  constructor
  · intro h
    cases hscan : Token.ofPattern pattern with
    | error fault =>
      rw [Piece.ofPattern, hscan] at h
      cases h
      obtain ⟨pre, items, body, name, fault, hs, hscanned, hbad, rfl⟩ :=
        Token.ofPattern_eq_error_iff.1 hscan
      exact ⟨_, rfl, .malformed hs hscanned hbad⟩
    | ok tokens =>
      obtain ⟨items, hall, -⟩ := Token.ofPattern_eq_ok_iff.1 hscan
      rw [Piece.ofPattern_of_scanned hall, Piece.ofTokens_join_eq_error_iff] at h
      rcases h with ⟨position, ⟨before, after, rfl, -, hbefore⟩, rfl⟩ | ⟨hnone, hopen, rfl⟩
      · obtain ⟨pre, post, hs, hscanned, hpost, rfl⟩ := hall.exists_closeBrace
        exact ⟨_, rfl, .unmatched hall (by simpa using hs) hscanned hpost hbefore⟩
      · have hunclosed : Unclosed Opens Closes items :=
          ((balanced_or items).resolve_left hopen).resolve_left fun ⟨b, hb⟩ => hnone b hb
        refine ⟨_, rfl, .unbalanced hall (fun before position after hitems hbefore => ?_) hunclosed⟩
        exact hnone _ ⟨before, after, hitems, ⟨position, rfl⟩, hbefore⟩
  · rintro ⟨fault, rfl, h⟩
    cases h with
    | malformed hs hscanned hbad =>
      rw [Piece.ofPattern, Token.ofPattern_of_malformed hs hscanned hbad]
      rfl
    | @unmatched pre post all before hall hs hscanned hpost hbefore =>
      rcases (hscanned.closeBrace hpost).exists_stop with
        ⟨more, hmore⟩ | ⟨pre', items, body, name, fault, hs', hscanned', hbad⟩
      · have hmore : Scanned pattern.toList (before ++ closeBrace (byteLength pre) :: more) [] := by
          simpa [hs] using hmore
        rw [Piece.ofPattern_of_scanned hmore, Piece.ofTokens_join_eq_error_iff]
        exact .inl ⟨_, ⟨before, more, rfl, ⟨_, rfl⟩, hbefore⟩, rfl⟩
      · have hs' : pattern.toList = pre' ++ '{' :: body := by simpa [hs] using hs'
        cases (Token.ofPattern_of_scanned hall).symm.trans
          (Token.ofPattern_of_malformed hs' hscanned' hbad)
    | @unbalanced all hall hnone hunclosed =>
      rw [Piece.ofPattern_of_scanned hall, Piece.ofTokens_join_eq_error_iff]
      refine .inr ⟨?_, fun hbalanced => ?_, rfl⟩
      · rintro b ⟨before, after, hitems, ⟨position, rfl⟩, hbefore⟩
        exact hnone before position after hitems hbefore
      · refine Balanced.not_unclosed hbalanced ?_ hunclosed
        rintro t ⟨position, rfl⟩ ⟨position', h⟩
        cases h

/-- The placeholder is named first although a brace before it is never closed, and the byte counts
both bytes of the letter with an accent. -/
example : sourceOfPattern Suite.RecordType "é\x7b \x7bn :u8\x7d" =
    .error (.placeholder ⟨.invalidPlaceholder, 4, some "n"⟩) := by
  decide +kernel

end StepPhrase
