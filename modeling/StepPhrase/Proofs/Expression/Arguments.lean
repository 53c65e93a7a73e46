import StepPhrase.Proofs.Expression.Agreement
import StepPhrase.Step.Basic
import StepPhrase.Suite.Record

/-! What a text that is matched gives: an argument for each placeholder, or the first fault. -/
namespace StepPhrase

open Regex

variable {κ : Type} [RecordKind κ] {types types' : ParameterTypes κ} {type : ParameterType κ}
  {config config' : ExpressionConfig} {p : Placeholder} {ps : List Placeholder}
  {pattern text w : String} {texts : List String} {tokens : List Token}
  {pieces pieces' : List (Piece κ)}
  {e : Expression κ} {c : Captures} {args : List (Argument κ)} {fault : ParameterError} {i : Nat}

namespace ParameterTypes

/-- The type of a placeholder: the one its hint names, or texts under the name of the hint. -/
def typeOf (types : ParameterTypes κ) (p : Placeholder) : ParameterType κ :=
  match p.hint with
  | none => .text "String"
  | some hint => (types.get? hint).getD (.text hint)

/-- The group around the fragment of a placeholder after those, where each of them has a group and
the groups inside of its fragment. -/
def groupAfter (types : ParameterTypes κ) (before : List Placeholder) : Nat :=
  before.foldl (fun next p => next + 1 + (types.typeOf p).innerGroups) 1

/-- What a placeholder makes of the text it captured. -/
def argument (types : ParameterTypes κ) (p : Placeholder) (text : String) :
    Except ParameterError (Argument κ) :=
  ((types.typeOf p).value text).map fun value => ⟨p.name, (types.typeOf p).name, text, value⟩

def pieceOf (types : ParameterTypes κ) : Token → Piece κ
  | .literal text => .literal text
  | .openBrace _ => .literal ['{']
  | .closeBrace _ => .literal ['}']
  | .placeholder p => .slot p.name (types.typeOf p)

theorem argument_eq_ok_iff {a : Argument κ} : types.argument p w = .ok a ↔
    ∃ value, (types.typeOf p).convert w = .ok value ∧
      ⟨p.name, (types.typeOf p).name, w, value⟩ = a := by
  rw [argument, map_eq_ok_iff]
  simp only [ParameterType.value_eq_ok_iff]

theorem exists_argument_iff :
    (∃ a, types.argument p w = .ok a) ↔ ∃ value, (types.typeOf p).convert w = .ok value :=
  exists_map_eq_ok_iff.trans (exists_congr fun _ => ParameterType.value_eq_ok_iff)

theorem argument_eq_error_iff : types.argument p w = .error fault ↔
    ∃ cause, (types.typeOf p).convert w = .error cause ∧
      .refused (types.typeOf p).name w cause = fault :=
  map_eq_error_iff.trans ParameterType.value_eq_error_iff

end ParameterTypes

namespace Piece

theorem eq_typeOf_of_resolve (h : (resolve types config p).value = .ok type) :
    type = types.typeOf p := by
  unfold resolve at h
  unfold ParameterTypes.typeOf
  cases hhint : p.hint with
  | none =>
    rw [hhint] at h
    exact (Except.ok.inj h).symm
  | some hint =>
    rw [hhint] at h
    dsimp only at h ⊢
    cases hget : types.get? hint with
    | some type' =>
      rw [hget] at h
      exact (Except.ok.inj h).symm
    | none =>
      rw [hget] at h
      dsimp only at h
      split at h
      · cases h
      · exact (Except.ok.inj h).symm

theorem Resolved.eq_map (h : Resolved types config tokens pieces) :
    pieces = tokens.map types.pieceOf := by
  induction h with
  | nil => rfl
  | literal h ih => rw [ih]; rfl
  | openBrace h ih => rw [ih]; rfl
  | closeBrace h ih => rw [ih]; rfl
  | placeholder htype h ih => rw [ih, eq_typeOf_of_resolve htype]; rfl

theorem filterMap_slot?_pieceOf : (tokens.map types.pieceOf).filterMap slot? =
    (Token.placeholders tokens).map fun p => (p.name, types.typeOf p) := by
  rw [Token.placeholders, List.filterMap_map, List.map_filterMap]
  congr 1
  funext token
  cases token <;> rfl

/-- The regular expression of a pattern takes the fragments from the types, and nothing else. -/
theorem sourceOf_pieceOf_congr (h : ∀ p ∈ Token.placeholders tokens,
    (types.typeOf p).fragment = (types'.typeOf p).fragment) :
    sourceOf (tokens.map types.pieceOf) = sourceOf (tokens.map types'.pieceOf) := by
  have hsource :
      (tokens.map types.pieceOf).map source = (tokens.map types'.pieceOf).map source := by
    rw [List.map_map, List.map_map]
    refine List.map_congr_left fun token htoken => ?_
    cases token with
    | literal text => rfl
    | openBrace position => rfl
    | closeBrace position => rfl
    | placeholder p =>
      have hp : p ∈ Token.placeholders tokens := List.mem_filterMap.2 ⟨_, htoken, rfl⟩
      simp only [Function.comp_apply, ParameterTypes.pieceOf, source, h p hp]
  rw [sourceOf, sourceOf, hsource]

end Piece

theorem Slot.getElem?_number {next : Nat} {slots : List (String × ParameterType κ)} :
    (number next slots)[i]? = slots[i]?.map fun s =>
      ⟨s.1, s.2, (slots.take i).foldl (fun next s => next + 1 + s.2.innerGroups) next⟩ := by
  induction slots generalizing next i with
  | nil => rfl
  | cons slot slots ih =>
    cases i with
    | zero => rfl
    | succ i =>
      rw [number, List.getElem?_cons_succ, ih]
      rfl

namespace Expression

theorem MadeOf.getElem?_slots (h : e.MadeOf types config tokens pieces) :
    e.slots[i]? = (Token.placeholders tokens)[i]?.map fun p =>
      ⟨p.name, types.typeOf p, types.groupAfter ((Token.placeholders tokens).take i)⟩ := by
  rw [h.slots, h.resolved.eq_map, Piece.filterMap_slot?_pieceOf, Slot.getElem?_number,
    List.getElem?_map, Option.map_map, ← List.map_take]
  simp only [List.foldl_map]
  rfl

theorem match?_eq_mapM (h : e.regex.captures? text = some c) :
    e.match? text = (e.slots.mapM fun s : Slot κ => s.argument (c.textOf s.group)).map some := by
  rw [match?_of_captures? h, arguments, List.map_map, ← List.map_prod_left_eq_zip, List.mapM_map]
  rfl

/-- The placeholder in place `i` captured the text. -/
structure Took (types : ParameterTypes κ) (ps : List Placeholder) (c : Captures) (i : Nat)
    (p : Placeholder) (text : String) : Prop where
  placeholder : ps[i]? = some p
  captured : c.textOf (types.groupAfter (ps.take i)) = text

/-- What the placeholders captured are the texts of the groups kept for them, each in its place. -/
theorem MadeOf.took_iff (h : e.MadeOf types config tokens pieces)
    (hc : e.regex.captures? text = some c)
    (hselect : e.regex.select? (e.slots.map (·.group)) text = some texts) :
    Took types (Token.placeholders tokens) c i p w ↔
      (Token.placeholders tokens)[i]? = some p ∧ texts[i]? = some w := by
  rw [Regex.select?, hc] at hselect
  cases hselect
  rw [List.getElem?_map, List.getElem?_map, h.getElem?_slots]
  constructor
  · rintro ⟨hp, rfl⟩
    rw [hp]
    exact ⟨rfl, rfl⟩
  · rintro ⟨hp, hw⟩
    rw [hp] at hw
    exact ⟨hp, Option.some.inj hw⟩

/-- An argument for each placeholder, of the text that it captured. -/
structure Gave (types : ParameterTypes κ) (ps : List Placeholder) (c : Captures)
    (args : List (Argument κ)) : Prop where
  length : args.length = ps.length
  each : ∀ i p w, Took types ps c i p w → ∃ value, (types.typeOf p).convert w = .ok value ∧
    args[i]? = some ⟨p.name, (types.typeOf p).name, w, value⟩

/-- The text in place `i` is refused, and none before it. -/
structure LeftmostRefused (types : ParameterTypes κ) (ps : List Placeholder) (c : Captures)
    (i : Nat) (p : Placeholder) (w : String) (cause : Cause) : Prop where
  took : Took types ps c i p w
  refused : (types.typeOf p).convert w = .error cause
  before : ∀ j q u, Took types ps c j q u → j < i →
    ∃ value, (types.typeOf q).convert u = .ok value

section Slots

variable {P : Nat → Except ParameterError (Argument κ) → Prop}

theorem MadeOf.forall_slot_iff (h : e.MadeOf types config tokens pieces) :
    (∀ i s, e.slots[i]? = some s → P i (s.argument (c.textOf s.group))) ↔
      ∀ i p w, Took types (Token.placeholders tokens) c i p w → P i (types.argument p w) := by
  simp only [h.getElem?_slots, Option.map_eq_some_iff]
  constructor
  · rintro hall i p w ⟨hp, rfl⟩
    exact hall i _ ⟨p, hp, rfl⟩
  · rintro hall i s ⟨p, hp, rfl⟩
    exact hall i p _ ⟨hp, rfl⟩

theorem MadeOf.exists_slot_iff (h : e.MadeOf types config tokens pieces) :
    (∃ i s, e.slots[i]? = some s ∧ P i (s.argument (c.textOf s.group))) ↔
      ∃ i p w, Took types (Token.placeholders tokens) c i p w ∧ P i (types.argument p w) := by
  simp only [h.getElem?_slots, Option.map_eq_some_iff]
  constructor
  · rintro ⟨i, s, ⟨p, hp, rfl⟩, hP⟩
    exact ⟨i, p, _, ⟨hp, rfl⟩, hP⟩
  · rintro ⟨i, p, w, ⟨hp, rfl⟩, hP⟩
    exact ⟨i, _, ⟨p, hp, rfl⟩, hP⟩

end Slots

theorem MadeOf.length_slots (h : e.MadeOf types config tokens pieces) :
    e.slots.length = (Token.placeholders tokens).length := by
  rw [← List.length_map (f := fun s : Slot κ => s.name), h.map_name, List.length_map]

theorem MadeOf.match?_eq_some_iff (h : e.MadeOf types config tokens pieces)
    (hc : e.regex.captures? text = some c) : e.match? text = .ok (some args) ↔
      Gave types (Token.placeholders tokens) c args := by
  rw [match?_eq_mapM hc, map_eq_ok_iff]
  simp only [Option.some.injEq, exists_eq_right, mapM_eq_ok_iff, h.length_slots]
  rw [h.forall_slot_iff (P := fun i x => ∃ a, args[i]? = some a ∧ x = .ok a)]
  simp only [ParameterTypes.argument_eq_ok_iff]
  constructor
  · rintro ⟨hlength, hall⟩
    refine ⟨hlength, fun i p w hw => ?_⟩
    obtain ⟨a, ha, value, hvalue, rfl⟩ := hall i p w hw
    exact ⟨value, hvalue, ha⟩
  · rintro ⟨hlength, hall⟩
    refine ⟨hlength, fun i p w hw => ?_⟩
    obtain ⟨value, hvalue, ha⟩ := hall i p w hw
    exact ⟨_, ha, value, hvalue, rfl⟩

theorem MadeOf.exists_match?_iff (h : e.MadeOf types config tokens pieces)
    (hc : e.regex.captures? text = some c) : (∃ args, e.match? text = .ok (some args)) ↔
      ∀ i p w, Took types (Token.placeholders tokens) c i p w →
        ∃ value, (types.typeOf p).convert w = .ok value := by
  simp only [← ParameterTypes.exists_argument_iff]
  rw [← h.forall_slot_iff (P := fun _ x => ∃ a, x = .ok a)]
  simp only [match?_eq_mapM hc, map_eq_ok_iff, Option.some.injEq, exists_eq_right,
    exists_mapM_eq_ok_iff, List.mem_iff_getElem?]
  constructor
  · intro hall i s hs
    exact hall s ⟨i, hs⟩
  · rintro hall s ⟨i, hs⟩
    exact hall i s hs

/-- The fault is that of the leftmost placeholder whose text is refused. -/
theorem MadeOf.match?_eq_error_iff (h : e.MadeOf types config tokens pieces)
    (hc : e.regex.captures? text = some c) : e.match? text = .error fault ↔
      ∃ i p w cause, LeftmostRefused types (Token.placeholders tokens) c i p w cause ∧
        .refused (types.typeOf p).name w cause = fault := by
  have hbefore : ∀ i, (∀ j < i, ∀ s, e.slots[j]? = some s →
      ∃ a, s.argument (c.textOf s.group) = .ok a) ↔
        ∀ j q u, Took types (Token.placeholders tokens) c j q u → j < i →
          ∃ value, (types.typeOf q).convert u = .ok value := by
    intro i
    simp only [← ParameterTypes.exists_argument_iff]
    rw [← h.forall_slot_iff (P := fun j x => j < i → ∃ a, x = .ok a)]
    exact ⟨fun hall j s hs hj => hall j hj s hs, fun hall j hj s hs => hall j s hs hj⟩
  rw [match?_eq_mapM hc, map_eq_error_iff, mapM_eq_error_iff]
  simp only [hbefore]
  rw [h.exists_slot_iff (P := fun i x => x = .error fault ∧
    ∀ j q u, Took types (Token.placeholders tokens) c j q u → j < i →
      ∃ value, (types.typeOf q).convert u = .ok value)]
  simp only [ParameterTypes.argument_eq_error_iff]
  constructor
  · rintro ⟨i, p, w, hw, ⟨cause, hcause, hfault⟩, hall⟩
    exact ⟨i, p, w, cause, ⟨hw, hcause, hall⟩, hfault⟩
  · rintro ⟨i, p, w, cause, ⟨hw, hcause, hall⟩, hfault⟩
    exact ⟨i, p, w, hw, ⟨cause, hcause, hfault⟩, hall⟩

/-- The arguments have the names of the placeholders. -/
theorem MadeOf.names_of_match? (h : e.MadeOf types config tokens pieces)
    (hm : e.match? text = .ok (some args)) : args.map (·.name) = e.parameterNames := by
  obtain ⟨c, hc, -⟩ := match?_eq_some hm
  obtain ⟨hlength, hall⟩ := (h.match?_eq_some_iff hc).1 hm
  rw [parameterNames, h.map_name]
  refine List.ext_getElem? fun i => ?_
  rw [List.getElem?_map, List.getElem?_map]
  cases hp : (Token.placeholders tokens)[i]? with
  | none =>
    rw [List.getElem?_eq_none_iff, ← hlength, ← List.getElem?_eq_none_iff] at hp
    rw [hp]
    rfl
  | some p =>
    obtain ⟨value, -, ha⟩ := hall i p _ ⟨hp, rfl⟩
    rw [ha]
    rfl

theorem match?_eq_none_iff_isMatch :
    e.match? text = .ok none ↔ e.regex.isMatch text = false := by
  rw [match?_eq_none, Regex.isMatch, Option.isSome_eq_false_iff, Option.isNone_iff_eq_none]

/-- Two expressions of a pattern have one regular expression if their types have the same
fragments. -/
theorem MadeOf.regex_congr {e' : Expression κ} (h : e.MadeOf types config tokens pieces)
    (h' : e'.MadeOf types' config' tokens pieces')
    (hfragment : ∀ p ∈ Token.placeholders tokens,
      (types.typeOf p).fragment = (types'.typeOf p).fragment) : e.regex = e'.regex := by
  have hregex := h.regex
  rw [h.resolved.eq_map, Piece.sourceOf_pieceOf_congr hfragment, ← h'.resolved.eq_map,
    h'.regex] at hregex
  exact (Except.ok.inj hregex).symm

end Expression

namespace Step

open Expression

variable {step : Step κ} {error : StepError} {found : Option (List (Argument κ))}

theorem match?_eq_ok_iff : step.match? text = .ok found ↔ step.expression.match? text = .ok found :=
  mapError_eq_ok_iff

theorem match?_eq_error_iff : step.match? text = .error error ↔
    ∃ fault, step.expression.match? text = .error fault ∧
      .conversionFailure (.parameter fault) = error :=
  mapError_eq_error_iff

/-- A step does not match just if its regular expression does not, whatever the conversions are. A
text that is matched gives an argument for each placeholder, in their order, if all the captured
texts are converted, and else the fault of the leftmost one that is refused. -/
theorem match?_all_or_nothing
    (h : (Expression.compile types config pattern).value = .ok step.expression) :
    ∃ tokens, Token.ofPattern pattern = .ok tokens ∧
      step.expression.parameterNames = (Token.placeholders tokens).map (·.name) ∧
      (∀ (types' : ParameterTypes κ) (config' : ExpressionConfig) (step' : Step κ),
        (Expression.compile types' config' pattern).value = .ok step'.expression →
          (∀ p ∈ Token.placeholders tokens,
            (types.typeOf p).fragment = (types'.typeOf p).fragment) →
          ∀ text, step.match? text = .ok none ↔ step'.match? text = .ok none) ∧
      ∀ text, (step.match? text = .ok none ↔ step.expression.regex.isMatch text = false) ∧
        (∀ args, step.match? text = .ok (some args) →
          args.map (·.name) = step.expression.parameterNames) ∧
        ∀ c, step.expression.regex.captures? text = some c →
          ((∃ args, step.match? text = .ok (some args)) ↔
            ∀ i p w, Took types (Token.placeholders tokens) c i p w →
              ∃ value, (types.typeOf p).convert w = .ok value) ∧
          (∀ args, step.match? text = .ok (some args) ↔
            Gave types (Token.placeholders tokens) c args) ∧
          ∀ error, step.match? text = .error error ↔ ∃ i p w cause,
            LeftmostRefused types (Token.placeholders tokens) c i p w cause ∧
              error = .conversionFailure (.parameter (.refused (types.typeOf p).name w cause)) := by
  obtain ⟨tokens, pieces, htokens, -, hmade⟩ := exists_madeOf h
  simp only [match?_eq_ok_iff, match?_eq_error_iff]
  refine ⟨tokens, htokens, hmade.map_name, ?_, fun text =>
    ⟨match?_eq_none_iff_isMatch, fun args => hmade.names_of_match?, fun c hc =>
      ⟨hmade.exists_match?_iff hc, fun args => hmade.match?_eq_some_iff hc, fun error => ?_⟩⟩⟩
  · intro types' config' step' h' hfragment text
    obtain ⟨tokens', pieces', htokens', -, hmade'⟩ := exists_madeOf h'
    cases htokens.symm.trans htokens'
    rw [match?_eq_none_iff_isMatch, match?_eq_none_iff_isMatch, hmade.regex_congr hmade' hfragment]
  · simp only [hmade.match?_eq_error_iff hc]
    constructor
    · rintro ⟨fault, ⟨i, p, w, cause, hrefused, rfl⟩, rfl⟩
      exact ⟨i, p, w, cause, hrefused, rfl⟩
    · rintro ⟨i, p, w, cause, hrefused, rfl⟩
      exact ⟨_, ⟨i, p, w, cause, hrefused, rfl⟩, rfl⟩

/-- Of two numbers that are both refused the first is told, and two that are read are both given. -/
theorem match?_all_or_nothing_two :
    ∃ (types : ParameterTypes Suite.RecordType) (step : Step Suite.RecordType),
      (Expression.compile types {} "{n:u8} of {m:i8}").value = .ok step.expression ∧
        (∃ args, step.match? "3 of -7" = .ok (some args) ∧ args.map (·.name) = ["n", "m"]) ∧
        ∃ cause, step.match? "300 of 200" =
          .error (.conversionFailure (.parameter (.refused "u8" "300" cause))) := by
  let n : Placeholder := ⟨"n", some "u8", 0⟩
  let m : Placeholder := ⟨"m", some "i8", 10⟩
  have hscan : Token.ofPattern "{n:u8} of {m:i8}" =
      .ok [.placeholder n, .literal " of ".toList, .placeholder m] := by decide +kernel
  obtain ⟨types, hn, hm, e, he, hselect, hselect'⟩ :
      ∃ types : ParameterTypes Suite.RecordType,
        types.typeOf n = .int .u8 ∧ types.typeOf m = .int .i8 ∧ ∃ e,
          (Expression.compile types {} "{n:u8} of {m:i8}").value = .ok e ∧
            e.regex.select? (e.slots.map (·.group)) "3 of -7" = some ["3", "-7"] ∧
            e.regex.select? (e.slots.map (·.group)) "300 of 200" = some ["300", "200"] :=
    ⟨.builtin, rfl, rfl, exists_ok_of_any (by decide +kernel)⟩
  obtain ⟨small, hsmall, -⟩ := Option.map_eq_some_iff.1 hselect
  obtain ⟨large, hlarge, -⟩ := Option.map_eq_some_iff.1 hselect'
  obtain ⟨tokens, pieces, htokens, -, hmade⟩ := exists_madeOf he
  cases hscan.symm.trans htokens
  have hconverted : ∀ i p w, Took types [n, m] small i p w →
      ∃ value, (types.typeOf p).convert w = .ok value := by
    intro i p w htook
    obtain ⟨hp, hw⟩ := (hmade.took_iff hsmall hselect).1 htook
    rcases i with _ | _ | i
    · cases hp
      cases hw
      rw [hn]
      exact ⟨_, rfl⟩
    · cases hp
      cases hw
      rw [hm]
      exact ⟨_, rfl⟩
    · cases hp
  have hrefused : LeftmostRefused types [n, m] large 0 n "300" (.scalar .tooLarge) := by
    refine ⟨(hmade.took_iff hlarge hselect').2 ⟨rfl, rfl⟩, ?_,
      fun j q u _ hj => absurd hj (Nat.not_lt_zero j)⟩
    rw [hn]
    rfl
  let step : Step Suite.RecordType :=
    ⟨e, fun _ text => pure (.ok ⟨.text, text⟩), fun _ _ => pure (.ok ⟨.text, ""⟩)⟩
  have hstep : (Expression.compile types {} "{n:u8} of {m:i8}").value = .ok step.expression := he
  obtain ⟨tokens', htokens', hnames, -, hmatch⟩ := match?_all_or_nothing hstep
  cases htokens.symm.trans htokens'
  obtain ⟨args, hargs⟩ := ((hmatch "3 of -7").2.2 small hsmall).1.2 hconverted
  have hrefusal :=
    (((hmatch "300 of 200").2.2 large hlarge).2.2 _).2 ⟨0, n, "300", _, hrefused, rfl⟩
  rw [hn] at hrefusal
  exact ⟨types, step, he, ⟨args, hargs, ((hmatch _).2.1 args hargs).trans hnames⟩, _, hrefusal⟩

end Step

end StepPhrase
