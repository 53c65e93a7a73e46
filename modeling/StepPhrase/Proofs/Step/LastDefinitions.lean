import StepPhrase.Proofs.Expression.Hints
import StepPhrase.Proofs.Registry.Definitions
import StepPhrase.Proofs.Step.Structural

/-! Registries that cannot be told apart: those whose histories end alike. -/
namespace StepPhrase

variable {κ : Type} [RecordKind κ] [DecidableEq κ] {r r' : Registry κ}

namespace Registry

/-- Whatever the registries are asked for, they give the same. -/
structure Alike (r r' : Registry κ) : Prop where
  parameterTypeNames : r.parameterTypeNames = r'.parameterTypeNames
  tableTypeNames : r.tableTypeNames = r'.tableTypeNames
  converterNames : r.converterNames = r'.converterNames
  dump : r.dump = r'.dump
  parameterType? : ∀ name, r.parameterTypes.get? name = r'.parameterTypes.get? name
  tableType? : ∀ name, r.tableType? name = r'.tableType? name
  convert : ∀ t type, r.convert t type = r'.convert t type
  compile : ∀ strictness pattern, r.compile strictness pattern = r'.compile strictness pattern
  create : ∀ strictness pattern (c : ArgumentConversion κ),
    Step.create r strictness pattern c = Step.create r' strictness pattern c
  docString : ∀ (c : ArgumentConversion κ) text, c.docString r text = c.docString r' text
  table : ∀ (c : ArgumentConversion κ) rows, c.table r rows = c.table r' rows

namespace Same

variable (h : r.Same r')
include h

theorem dump : r.dump = r'.dump := by
  unfold Registry.dump parameterTypeNames
  rw [h.parameterTypes, h.tableTypes, converterNames_of_perm h.converters]

theorem convert : r.convert = r'.convert := by
  have hclosed : r'.Closed fun _ => True := by
    intro type k _ _ f g hfg
    have heq : f = g := funext fun t => funext fun type' => hfg t type' trivial
    rw [heq]
  funext t type
  exact convert_congr hclosed (fun type _ => h.converter? type) h.nesting trivial

theorem compile : r.compile = r'.compile := by
  funext strictness pattern
  unfold Registry.compile expressionConfig
  rw [h.parameterTypes, h.config]

theorem create (strictness : Strictness) (pattern : String) (c : ArgumentConversion κ) :
    Step.create r strictness pattern c = Step.create r' strictness pattern c := by
  unfold Step.create
  rw [h.compile]

theorem convertBound {t : DataTable} {type : ValueType κ} {transposed : Bool} :
    ArgumentConversion.convertBound r t type transposed =
      ArgumentConversion.convertBound r' t type transposed := by
  unfold ArgumentConversion.convertBound
  rw [h.convert]

theorem convertNamed : ArgumentConversion.convertNamed r = ArgumentConversion.convertNamed r' := by
  funext name rows
  unfold ArgumentConversion.convertNamed ArgumentConversion.resolve tableType?
  rw [h.tableTypes]

theorem docString (c : ArgumentConversion κ) (text : String) :
    c.docString r text = c.docString r' text := by
  cases c with
  | identity => rfl
  | structural type transposed => simp only [ArgumentConversion.docString, h.convertBound]
  | named name transposed => simp only [ArgumentConversion.docString, h.convertNamed]

theorem table (c : ArgumentConversion κ) (rows : List (List String)) :
    c.table r rows = c.table r' rows := by
  unfold ArgumentConversion.table
  cases DataTable.ofRows rows with
  | error e => rfl
  | ok t =>
    cases c with
    | identity => rfl
    | structural type transposed => simp only [h.convertBound]
    | named name transposed => simp only [h.convertNamed]

theorem alike : r.Alike r' where
  parameterTypeNames := congrArg NameMap.names h.parameterTypes
  tableTypeNames := congrArg NameMap.names h.tableTypes
  converterNames := converterNames_of_perm h.converters
  dump := h.dump
  parameterType? name := congrArg (·.get? name) h.parameterTypes
  tableType? name := congrArg (·.get? name) h.tableTypes
  convert t type := by rw [h.convert]
  compile strictness pattern := by rw [h.compile]
  create := h.create
  docString := h.docString
  table := h.table

end Same

end Registry

namespace Session

variable {s : Session κ} {changes : List (Change κ)} {pattern : String}

/-- Types of other names leave those that the hints name as they are. -/
theorem agreeOn_after (h : ∀ t, .parameterType t ∈ changes →
    ∀ position, ¬Token.HintAt pattern.toList t.name position) :
    AgreeOn pattern (s.after changes).registry.parameterTypes s.registry.parameterTypes := by
  intro hint position hmet
  refine entry_after_of_forall (·.registry.parameterTypes.get? hint)
    (fun _ _ => parameterType?_apply) ?_
  intro c hc
  cases c with
  | parameterType t =>
    have hne : t.name ≠ hint := by
      rintro rfl
      exact h t hc position hmet
    exact if_neg hne
  | tableType t => rfl
  | converter target f => rfl
  | records k => rfl
  | forced b => rfl
  | environment value => rfl

theorem compile_after {strictness : Strictness} (h : ∀ t, .parameterType t ∈ changes →
    ∀ position, ¬Token.HintAt pattern.toList t.name position) :
    (s.after changes).registry.compile strictness pattern =
      s.registry.compile strictness pattern := by
  unfold Registry.compile Registry.expressionConfig
  simp only [config_after, Expression.compile_congr (agreeOn_after h)]

end Session

/-- Histories that end with the same last definitions make registries, both of one configuration,
that give the same whatever they are asked for. The expression of a pattern, with what is logged,
depends only on the types that its hints name, so that no other definitions change it; and a
placeholder without a hint captures plain text under all types, be it none at all or another one
under the name `String`. -/
theorem last_definitions_count (config : Option ExpressionConfig) :
    (∀ (first second : List (Change κ)), EndAlike first second → ∀ strictness strictness' nesting,
      ((Session.start config strictness nesting).after first).registry.Alike
        ((Session.start config strictness' nesting).after second).registry) ∧
    (∀ (types types' : ParameterTypes κ) config pattern, AgreeOn pattern types types' →
      Expression.compile types config pattern = Expression.compile types' config pattern) ∧
    (∀ (s : Session κ) (changes : List (Change κ)) pattern,
      (∀ t, .parameterType t ∈ changes → ∀ position,
        ¬Token.HintAt pattern.toList t.name position) →
      ∀ strictness, (s.after changes).registry.compile strictness pattern =
        s.registry.compile strictness pattern) ∧
    ∀ (types : ParameterTypes κ) config pattern tokens e, Token.ofPattern pattern = .ok tokens →
      (Expression.compile types config pattern).value = .ok e →
      List.Forall₂ (fun p s => p.hint = none → s.name = p.name ∧ s.type = .text "String")
        (Token.placeholders tokens) e.slots ∧
      ∀ text args, e.match? text = .ok (some args) →
        List.Forall₂ (fun p a => p.hint = none → a = ⟨p.name, "String", a.text, ⟨.text, a.text⟩⟩)
          (Token.placeholders tokens) args := by
  refine ⟨?_, ?_, ?_, ?_⟩
  · intro first second h strictness strictness' nesting
    exact h.same.alike
  · intro types types' config pattern h
    exact Expression.compile_congr h
  · intro s changes pattern h strictness
    exact Session.compile_after h
  · intro types config pattern tokens e htokens he
    refine ⟨Expression.forall₂_slots htokens he, ?_⟩
    intro text args hm
    exact Expression.forall₂_match? htokens he hm

namespace Suite

/-- A type of words, under another name. -/
def wordAs (name : String) : ParameterType RecordType := { ParameterType.word with name := name }

/-- Definitions of which two are revised. -/
def revised : List (Change RecordType) :=
  [.tableType (TableTransform.count.tableType "Summary"), .parameterType (.text "Money"),
    .records .label, .parameterType (wordAs "String"),
    .tableType (TableTransform.cells.tableType "Summary"), .parameterType (wordAs "Money")]

/-- The definitions that are left in the end, in another order. -/
def settled : List (Change RecordType) :=
  [.parameterType (wordAs "Money"), .parameterType (wordAs "String"),
    .tableType (TableTransform.cells.tableType "Summary"), .records .label]

theorem endAlike_revised : EndAlike revised settled where
  parameterType name t := by
    simp only [setLast_iff, revised, settled, List.reverse_cons, List.reverse_nil, List.nil_append,
      List.cons_append, List.findSome?_cons, List.findSome?_nil, Change.parameterType?, wordAs,
      ParameterType.text]
    by_cases hmoney : "Money" = name
    · subst hmoney
      simp
    · simp [hmoney]
  tableType name t := by
    simp only [setLast_iff, revised, settled, List.reverse_cons, List.reverse_nil, List.nil_append,
      List.cons_append, List.findSome?_cons, List.findSome?_nil, Change.tableType?,
      TableTransform.tableType]
    by_cases h : "Summary" = name
    · simp [h]
    · simp [h]
  converter type k := by
    rw [setLast_iff, setLast_iff]
    rfl

end Suite

open Suite in
/-- The revised definitions cannot be told from the settled ones. Of all the settled types a pattern
uses one, and what it captures without a hint is text, though `String` stands for words. -/
theorem last_definitions_count_revised :
    EndAlike revised settled ∧
      ((Session.start none {}).after revised).registry.dump =
        ((Session.start none {}).after settled).registry.dump ∧
      ∃ (e : Expression RecordType) (args : List (Argument RecordType)),
        (Expression.compile (ParameterTypes.define ∅ (wordAs "Money")).value.1 {}
          "\x7bwho\x7d pays \x7ba:Money\x7d").value = .ok e ∧
        (Expression.compile ((Session.start none {}).after settled).registry.parameterTypes {}
          "\x7bwho\x7d pays \x7ba:Money\x7d").value = .ok e ∧
        e.match? "Ann Lee pays 5" = .ok (some args) ∧
        args[0]? = some ⟨"who", "String", "Ann Lee", ⟨.text, "Ann Lee"⟩⟩ := by
  have htokens : Token.ofPattern "\x7bwho\x7d pays \x7ba:Money\x7d" =
      .ok [.placeholder ⟨"who", none, 0⟩, .literal " pays ".toList,
        .placeholder ⟨"a", some "Money", 11⟩] := by
    decide +kernel
  obtain ⟨e, he, hmatch⟩ : ∃ e, (Expression.compile
      (ParameterTypes.define ∅ (wordAs "Money")).value.1 {}
      "\x7bwho\x7d pays \x7ba:Money\x7d").value = .ok e ∧
      (e.match? "Ann Lee pays 5").toOption.any (·.map (·.map (·.text)) = some ["Ann Lee", "5"]) =
        true :=
    exists_ok_of_any (by decide +kernel)
  obtain ⟨found, hfound, hsome⟩ := exists_ok_of_any hmatch
  obtain ⟨args, rfl, htexts⟩ := Option.map_eq_some_iff.1 hsome
  obtain ⟨halike, hcompile, -, hplain⟩ := last_definitions_count (κ := RecordType) none
  have hagree : AgreeOn "\x7bwho\x7d pays \x7ba:Money\x7d"
      (ParameterTypes.define ∅ (wordAs "Money")).value.1
      ((Session.start none {}).after settled).registry.parameterTypes := by
    intro hint position hmet
    obtain ⟨p, hp, hhint, -⟩ := (Token.hintAt_iff htokens).1 hmet
    have hmoney : hint = "Money" := by
      rcases List.mem_pair.1 hp with rfl | rfl
      · cases hhint
      · cases hhint
        rfl
    subst hmoney
    rfl
  refine ⟨endAlike_revised, (halike _ _ endAlike_revised {} {} 255).dump, e, args, he, ?_, hfound, ?_⟩
  · rw [← hcompile _ _ {} _ hagree, he]
  · obtain ⟨-, hargs⟩ := hplain _ _ _ _ _ htokens he
    cases hargs _ _ hfound with
    | @cons p a _ _ ha hrest =>
      have htext : a.text = "Ann Lee" := (List.cons.inj htexts).1
      have hwho : a = _ := ha rfl
      rw [htext] at hwho
      exact congrArg some hwho

end StepPhrase
