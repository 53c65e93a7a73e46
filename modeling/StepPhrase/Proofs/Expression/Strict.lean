import StepPhrase.Proofs.Pattern.Hint
import StepPhrase.Suite.Record

/-! Strict compiling: hints that name no type are faults, and nothing else changes. -/
namespace StepPhrase

variable {κ : Type} [RecordKind κ] {types : ParameterTypes κ} {type : ParameterType κ}
  {tokens items : List Token} {pieces : List (Piece κ)} {length depth : Nat} {p : Placeholder}
  {pattern : String} {e : Expression κ} {error : PatternError} {hint : String} {position : Nat}
  {s : List Char}

/-- Hints that name no type are faults. -/
def ExpressionConfig.strict : ExpressionConfig := ⟨true⟩

namespace Piece

/-- What strict compiling finds wrong with a placeholder. -/
def undefined? (types : ParameterTypes κ) (p : Placeholder) : Option PatternError :=
  p.hint.bind fun hint =>
    if (types.get? hint).isNone then some (.undefinedParameterType hint p.start) else none

theorem undefined?_eq_some_iff : undefined? types p = some error ↔
    ∃ hint, p.hint = some hint ∧ types.get? hint = none ∧
      error = .undefinedParameterType hint p.start := by
  simp only [undefined?, Option.bind_eq_some_iff, Option.ite_none_right_eq_some,
    Option.isNone_iff_eq_none, Option.some.injEq, eq_comm (a := error)]

theorem resolve_of_undefined (h : undefined? types p = some error) :
    (resolve types .strict p).value = .error error := by
  obtain ⟨hint, hhint, hnone, rfl⟩ := undefined?_eq_some_iff.1 h
  simp only [resolve, hhint, hnone]
  rfl

theorem resolve_of_defined (h : undefined? types p = none) :
    (resolve types .strict p).value = (resolve types {} p).value := by
  unfold resolve
  split
  · rfl
  · rename_i hint hhint
    cases ht : types.get? hint with
    | some type => rfl
    | none => simp [undefined?, hhint, ht] at h

theorem map_of_eq_elim {x : Except PatternError (List (Piece κ))} {found : Option PatternError}
    (f : List (Piece κ) → List (Piece κ)) (h : x = found.elim (.ok pieces) .error) :
    x.map f = found.elim (.ok (f pieces)) .error := by
  subst h
  cases found <;> rfl

/-- A strict compiler stops at the first placeholder whose hint names no type, and otherwise goes
the same way. -/
theorem ofTokens_strict (h : (ofTokens types {} length depth tokens).value = .ok pieces) :
    (ofTokens types .strict length depth tokens).value =
      ((Token.placeholders tokens).findSome? (undefined? types)).elim (.ok pieces) .error := by
  induction tokens generalizing depth pieces with
  | nil => exact h
  | cons token tokens ih =>
    cases token with
    | literal s =>
      obtain ⟨rest, hrest, rfl⟩ := map_eq_ok_iff.1 h
      exact map_of_eq_elim (literal s :: ·) (ih hrest)
    | openBrace position =>
      obtain ⟨rest, hrest, rfl⟩ := map_eq_ok_iff.1 h
      exact map_of_eq_elim (literal ['{'] :: ·) (ih hrest)
    | closeBrace position =>
      cases depth with
      | zero => cases h
      | succ depth =>
        obtain ⟨rest, hrest, rfl⟩ := map_eq_ok_iff.1 h
        exact map_of_eq_elim (literal ['}'] :: ·) (ih hrest)
    | placeholder p =>
      obtain ⟨type, htype⟩ : ∃ type, (resolve types {} p).value = .ok type := exists_of_resolve
      simp only [ofTokens, Logged.value_bind, htype] at h
      obtain ⟨rest, hrest, rfl⟩ := map_eq_ok_iff.1 h
      have hcons : Token.placeholders (.placeholder p :: tokens) = p :: Token.placeholders tokens :=
        rfl
      rw [hcons, List.findSome?_cons]
      cases hp : undefined? types p with
      | some error =>
        simp only [ofTokens, Logged.value_bind, resolve_of_undefined hp]
        rfl
      | none =>
        simp only [ofTokens, Logged.value_bind, resolve_of_defined hp, htype]
        exact map_of_eq_elim (slot p.name type :: ·) (ih hrest)

/-- What strict compiling lets pass is compiled to the same pieces otherwise. -/
theorem ofTokens_of_strict (h : (ofTokens types .strict length depth tokens).value = .ok pieces) :
    (ofTokens types {} length depth tokens).value = .ok pieces := by
  induction tokens generalizing depth pieces with
  | nil => exact h
  | cons token tokens ih =>
    cases token with
    | literal s =>
      obtain ⟨rest, hrest, rfl⟩ := map_eq_ok_iff.1 h
      exact map_eq_ok_iff.2 ⟨rest, ih hrest, rfl⟩
    | openBrace position =>
      obtain ⟨rest, hrest, rfl⟩ := map_eq_ok_iff.1 h
      exact map_eq_ok_iff.2 ⟨rest, ih hrest, rfl⟩
    | closeBrace position =>
      cases depth with
      | zero => cases h
      | succ depth =>
        obtain ⟨rest, hrest, rfl⟩ := map_eq_ok_iff.1 h
        exact map_eq_ok_iff.2 ⟨rest, ih hrest, rfl⟩
    | placeholder p =>
      cases hp : undefined? types p with
      | some error =>
        simp only [ofTokens, Logged.value_bind, resolve_of_undefined hp] at h
        cases h
      | none =>
        simp only [ofTokens, Logged.value_bind, resolve_of_defined hp] at h ⊢
        split at h
        · cases h
        · rename_i type htype
          obtain ⟨rest, hrest, rfl⟩ := map_eq_ok_iff.1 h
          exact map_eq_ok_iff.2 ⟨rest, ih hrest, rfl⟩

theorem ofPattern_of_strict (h : (ofPattern types .strict pattern).value = .ok pieces) :
    (ofPattern types {} pattern).value = .ok pieces := by
  unfold ofPattern at h ⊢
  split at h
  · cases h
  · exact ofTokens_of_strict h

theorem ofPattern_strict (htokens : Token.ofPattern pattern = .ok tokens)
    (h : (ofPattern types {} pattern).value = .ok pieces) :
    (ofPattern types .strict pattern).value =
      ((Token.placeholders tokens).findSome? (undefined? types)).elim (.ok pieces) .error := by
  unfold ofPattern at h ⊢
  rw [htokens] at h ⊢
  exact ofTokens_strict h

end Piece

/-- The first placeholder of the text whose hint names no type has this hint, and its opening brace
stands at this byte. -/
structure FirstUndefined (types : ParameterTypes κ) (s : List Char) (hint : String)
    (position : Nat) : Prop where
  met : Token.HintAt s hint position
  undefined : types.get? hint = none
  first : ∀ hint' position', Token.HintAt s hint' position' → types.get? hint' = none →
    position ≤ position'

namespace FirstUndefined

variable {hint' : String} {position' : Nat}

theorem of_findSome? (hall : Token.Scanned s items [])
    (h : (Token.placeholders items).findSome? (Piece.undefined? types) = some error) :
    ∃ hint position, FirstUndefined types s hint position ∧
      error = .undefinedParameterType hint position := by
  obtain ⟨before, p, after, hsplit, hp, hbefore⟩ := List.findSome?_eq_some_iff.1 h
  obtain ⟨hint, hhint, hnone, rfl⟩ := Piece.undefined?_eq_some_iff.1 hp
  refine ⟨hint, p.start, ⟨hall.hintAt_iff.2 ⟨p, by simp [hsplit], hhint, rfl⟩, hnone, ?_⟩, rfl⟩
  intro hint' position' hmet hnone'
  obtain ⟨q, hq, hhint', rfl⟩ := hall.hintAt_iff.1 hmet
  obtain ⟨hpairwise, -⟩ := hall.pairwise_start
  rw [hsplit] at hq hpairwise
  rcases List.mem_append.1 hq with hq | hq
  · have hdefined := hbefore q hq
    rw [Piece.undefined?_eq_some_iff.2 ⟨hint', hhint', hnone', rfl⟩] at hdefined
    cases hdefined
  · rcases List.mem_cons.1 hq with rfl | hq
    · exact Nat.le_refl _
    · have hcons := (List.pairwise_append.1 hpairwise).2.1
      exact Nat.le_of_lt ((List.pairwise_cons.1 hcons).1 q hq)

theorem unique (hall : Token.Scanned s items []) (h : FirstUndefined types s hint position)
    (h' : FirstUndefined types s hint' position') : hint = hint' ∧ position = position' := by
  have hposition : position = position' :=
    Nat.le_antisymm (h.first _ _ h'.met h'.undefined) (h'.first _ _ h.met h.undefined)
  obtain ⟨p, hp, hhint, rfl⟩ := hall.hintAt_iff.1 h.met
  obtain ⟨q, hq, hhint', rfl⟩ := hall.hintAt_iff.1 h'.met
  cases hall.eq_of_start_eq hp hq hposition
  exact ⟨Option.some.inj (hhint.symm.trans hhint'), rfl⟩

end FirstUndefined

theorem findSome?_undefined_eq_none_iff (hall : Token.Scanned s items []) :
    (Token.placeholders items).findSome? (Piece.undefined? types) = none ↔
      ∀ hint position, Token.HintAt s hint position → types.get? hint ≠ none := by
  simp only [List.findSome?_eq_none_iff]
  constructor
  · intro h hint position hmet hnone
    obtain ⟨p, hp, hhint, rfl⟩ := hall.hintAt_iff.1 hmet
    have hdefined := h p hp
    rw [Piece.undefined?_eq_some_iff.2 ⟨hint, hhint, hnone, rfl⟩] at hdefined
    cases hdefined
  · intro h p hp
    by_contra hne
    obtain ⟨error, herror⟩ := Option.ne_none_iff_exists'.1 hne
    obtain ⟨hint, hhint, hnone, -⟩ := Piece.undefined?_eq_some_iff.1 herror
    exact h hint p.start (hall.hintAt_iff.2 ⟨p, hp, hhint, rfl⟩) hnone

theorem findSome?_undefined_eq_some_iff (hall : Token.Scanned s items []) :
    (Token.placeholders items).findSome? (Piece.undefined? types) = some error ↔
      ∃ hint position, FirstUndefined types s hint position ∧
        error = .undefinedParameterType hint position := by
  constructor
  · exact FirstUndefined.of_findSome? hall
  · rintro ⟨hint, position, hfirst, rfl⟩
    cases hfind : (Token.placeholders items).findSome? (Piece.undefined? types) with
    | none =>
      have hdefined := (findSome?_undefined_eq_none_iff hall).1 hfind
      exact absurd hfirst.undefined (hdefined hint position hfirst.met)
    | some error =>
      obtain ⟨hint', position', hfirst', rfl⟩ := FirstUndefined.of_findSome? hall hfind
      obtain ⟨rfl, rfl⟩ := hfirst.unique hall hfirst'
      rfl

namespace Expression

theorem compile_of_malformed {config : ExpressionConfig} {pre body name : List Char}
    {fault : BraceFault} (hs : pattern.toList = pre ++ '{' :: body)
    (h : Token.Scanned pre items ('{' :: body)) (hbad : Placeholder.Malformed body name fault) :
    (compile types config pattern).value =
      .error (.placeholder ⟨fault, byteLength pre, some (String.ofList name)⟩) := by
  have hpieces : (Piece.ofPattern types config pattern).value =
      .error (.placeholder ⟨fault, byteLength pre, some (String.ofList name)⟩) := by
    rw [Piece.ofPattern, Token.ofPattern_of_malformed hs h hbad]
    rfl
  show (Piece.ofPattern types config pattern).value.bind (ofPieces pattern) = _
  rw [hpieces]
  rfl

theorem compile_of_strict (h : (compile types .strict pattern).value = .ok e) :
    (compile types {} pattern).value = .ok e := by
  obtain ⟨pieces, hpieces, he⟩ := bind_eq_ok_iff.1 h
  exact bind_eq_ok_iff.2 ⟨pieces, Piece.ofPattern_of_strict hpieces, he⟩

theorem compile_strict (htokens : Token.ofPattern pattern = .ok tokens)
    (h : (compile types {} pattern).value = .ok e) :
    (compile types .strict pattern).value =
      ((Token.placeholders tokens).findSome? (Piece.undefined? types)).elim (.ok e) .error := by
  obtain ⟨pieces, hpieces, he⟩ := bind_eq_ok_iff.1 h
  show (Piece.ofPattern types .strict pattern).value.bind (ofPieces pattern) = _
  rw [Piece.ofPattern_strict htokens hpieces]
  cases (Token.placeholders tokens).findSome? (Piece.undefined? types) with
  | some error => rfl
  | none => exact he

theorem compile_strict_eq_error_iff (h : (compile types {} pattern).value = .ok e) :
    (compile types .strict pattern).value = .error error ↔
      ∃ hint position, FirstUndefined types pattern.toList hint position ∧
        error = .undefinedParameterType hint position := by
  obtain ⟨tokens, pieces, htokens, -, -⟩ := exists_madeOf h
  obtain ⟨items, hall, rfl⟩ := Token.ofPattern_eq_ok_iff.1 htokens
  rw [compile_strict htokens h, Token.placeholders_join, ← findSome?_undefined_eq_some_iff hall]
  cases (Token.placeholders items).findSome? (Piece.undefined? types) with
  | none => simp
  | some error => simp

theorem exists_compile_strict_error_iff (h : (compile types {} pattern).value = .ok e) :
    (∃ error, (compile types .strict pattern).value = .error error) ↔
      ∃ hint position, Token.HintAt pattern.toList hint position ∧ types.get? hint = none := by
  simp only [compile_strict_eq_error_iff h]
  constructor
  · rintro ⟨error, hint, position, hfirst, -⟩
    exact ⟨hint, position, hfirst.met, hfirst.undefined⟩
  · rintro ⟨hint, position, hmet, hnone⟩
    obtain ⟨tokens, pieces, htokens, -, -⟩ := exists_madeOf h
    obtain ⟨items, hall, -⟩ := Token.ofPattern_eq_ok_iff.1 htokens
    cases hfind : (Token.placeholders items).findSome? (Piece.undefined? types) with
    | none => exact absurd hnone ((findSome?_undefined_eq_none_iff hall).1 hfind hint position hmet)
    | some error => exact ⟨error, (findSome?_undefined_eq_some_iff hall).1 hfind⟩

/-- Strict compiling gives the expression that is compiled otherwise, or a fault. Where there is an
expression otherwise, the fault is that of the first placeholder whose hint names no type, if there
is one; where a placeholder is malformed, it is told either way. -/
theorem strict_only_rejects (types : ParameterTypes κ) (pattern : String) :
    (∀ e, (compile types .strict pattern).value = .ok e →
      (compile types {} pattern).value = .ok e) ∧
    (∀ e, (compile types {} pattern).value = .ok e →
      ((∃ error, (compile types .strict pattern).value = .error error) ↔
        ∃ hint position, Token.HintAt pattern.toList hint position ∧ types.get? hint = none) ∧
      ∀ error, (compile types .strict pattern).value = .error error ↔
        ∃ hint position, FirstUndefined types pattern.toList hint position ∧
          error = .undefinedParameterType hint position) ∧
    (∀ pre items body name fault, pattern.toList = pre ++ '{' :: body →
      Token.Scanned pre items ('{' :: body) → Placeholder.Malformed body name fault →
        ∀ config, (compile types config pattern).value =
          .error (.placeholder ⟨fault, byteLength pre, some (String.ofList name)⟩)) ∧
    ∀ error, (compile types {} pattern).value = .error error →
      ∃ error', (compile types .strict pattern).value = .error error' := by
  refine ⟨fun e => compile_of_strict,
    fun e h => ⟨exists_compile_strict_error_iff h, fun error => compile_strict_eq_error_iff h⟩,
    fun pre items body name fault hs hscanned hbad config => compile_of_malformed hs hscanned hbad,
    fun error h => ?_⟩
  cases hstrict : (compile types .strict pattern).value with
  | error error' => exact ⟨error', rfl⟩
  | ok e => cases (compile_of_strict hstrict).symm.trans h

/-- Of two hints that name no type the first is told, and its byte counts both bytes of the letter
with an accent. -/
example : (compile (.builtin : ParameterTypes Suite.RecordType) .strict
      "é\x7bn:u8\x7d \x7ba:Money\x7d\x7bb:Other\x7d").value.map (·.slots.length) =
    .error (.undefinedParameterType "Money" 9) := by
  decide +kernel

end Expression

end StepPhrase
