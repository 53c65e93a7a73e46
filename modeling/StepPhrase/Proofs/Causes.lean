import StepPhrase.Error

/-! Errors and the errors that they were made of. However deep they lie in each other, the texts of
an error and of its causes tell each of them once, and the innermost one is the end of them all. -/
namespace StepPhrase

/-- The first text is words of its own and then the second one. -/
def EndsIn (outer inner : String) : Prop := ∃ words, words ≠ "" ∧ outer = words ++ inner

namespace Cause

/-- The error that an error was made of. It is there also where it is passed on as it is. -/
def held? : Cause → Option Cause
  | reason _ => none
  | scalar _ => none
  | truthValue _ => none
  | trimmed e => some e
  | pattern (.invalidFragment _ e) => some (reason e.message)
  | pattern (.regex e) => some (reason e.message)
  | pattern _ => none
  | parameter (.refused _ _ e) => some e
  | table (.cellParse _ _ _ e) => some e
  | table _ => none
  | conversion (.table e) => some (table e)
  | conversion (.parameter e) => some (parameter e)
  | conversion (.transform _ e) => some e
  | conversion _ => none
  | step (.malformedExpression e) => some (pattern e)
  | step (.malformedTable e) => some (table e)
  | step (.conversionFailure e) => some (conversion e)
  | step _ => none

/-- The error has words of its own: it does not just pass on the one that it was made of. -/
def speaks (e : Cause) : Bool := e.held?.all fun c => e.message != c.message

/-- The second error was made of the first. -/
def LiesIn (c e : Cause) : Prop := e.held? = some c

variable {e c : Cause}

/-! Errors lie in each other to a finite depth -/

theorem accessible_of_none (h : e.held? = none) : Acc LiesIn e := by
  refine .intro e fun c hc => ?_
  cases h.symm.trans hc

theorem accessible_of_some (h : e.held? = some c) (hc : Acc LiesIn c) : Acc LiesIn e := by
  refine .intro e fun c' hc' => ?_
  cases h.symm.trans hc'
  exact hc

theorem accessible_pattern (e : PatternError) : Acc LiesIn (pattern e) := by
  cases e with
  | invalidFragment name e => exact accessible_of_some rfl (accessible_of_none rfl)
  | regex e => exact accessible_of_some rfl (accessible_of_none rfl)
  | _ => exact accessible_of_none rfl

mutual

theorem accessible (e : Cause) : Acc LiesIn e := by
  cases e with
  | trimmed e => exact accessible_of_some rfl (accessible e)
  | pattern e => exact accessible_pattern e
  | parameter e => exact accessible_parameter e
  | table e => exact accessible_table e
  | conversion e => exact accessible_conversion e
  | step e => exact accessible_step e
  | _ => exact accessible_of_none rfl

theorem accessible_parameter (e : ParameterError) : Acc LiesIn (parameter e) := by
  cases e with
  | refused parameter value cause => exact accessible_of_some rfl (accessible cause)

theorem accessible_table (e : TableError) : Acc LiesIn (table e) := by
  cases e with
  | cellParse rowNumber columnIndex columnLabel cause =>
    exact accessible_of_some rfl (accessible cause)
  | _ => exact accessible_of_none rfl

theorem accessible_conversion (e : ConversionError) : Acc LiesIn (conversion e) := by
  cases e with
  | table e => exact accessible_of_some rfl (accessible_table e)
  | parameter e => exact accessible_of_some rfl (accessible_parameter e)
  | transform typeName cause => exact accessible_of_some rfl (accessible cause)
  | _ => exact accessible_of_none rfl

theorem accessible_step (e : StepError) : Acc LiesIn (step e) := by
  cases e with
  | malformedExpression e => exact accessible_of_some rfl (accessible_pattern e)
  | malformedTable e => exact accessible_of_some rfl (accessible_table e)
  | conversionFailure e => exact accessible_of_some rfl (accessible_conversion e)
  | _ => exact accessible_of_none rfl

end

instance : WellFoundedRelation Cause := ⟨LiesIn, ⟨accessible⟩⟩

/-- The errors that lie in each other, from the error itself to the innermost one. -/
def within (e : Cause) : List Cause :=
  match _h : e.held? with
  | none => [e]
  | some c => e :: within c
termination_by e
decreasing_by exact _h

theorem within_of_none (h : e.held? = none) : e.within = [e] := by
  rw [within]
  split
  · rfl
  · rename_i c hc
    cases h.symm.trans hc

theorem within_of_some (h : e.held? = some c) : e.within = e :: c.within := by
  rw [within]
  split
  · rename_i hnone
    cases hnone.symm.trans h
  · rename_i c' hc
    cases hc.symm.trans h
    rfl

theorem within_ne_nil : e.within ≠ [] := by
  cases h : e.held? with
  | none => simp [within_of_none h]
  | some c => simp [within_of_some h]

/-! What one error says of the one inside -/

/-- An error that holds another passes it on with its causes, or puts words in front and names it as
its own cause. An error that holds none names none. -/
theorem passed_on_or_named (e : Cause) :
    match e.held? with
    | none => e.chain = []
    | some c => e.message = c.message ∧ e.chain = c.chain ∨
      EndsIn e.message c.message ∧ e.chain = c.message :: c.chain := by
  cases e with
  | reason text => rfl
  | scalar e => rfl
  | truthValue value => rfl
  | trimmed e => exact .inr ⟨⟨_, by decide, rfl⟩, rfl⟩
  | pattern e =>
    cases e with
    | invalidFragment name e => exact .inr ⟨⟨_, by simp, rfl⟩, rfl⟩
    | regex e => exact .inl ⟨rfl, rfl⟩
    | _ => rfl
  | parameter e =>
    cases e with
    | refused parameter value cause => exact .inr ⟨⟨_, by simp, rfl⟩, rfl⟩
  | table e =>
    cases e with
    | cellParse rowNumber columnIndex columnLabel cause => exact .inr ⟨⟨_, by simp, rfl⟩, rfl⟩
    | _ => rfl
  | conversion e =>
    cases e with
    | table e => exact .inl ⟨rfl, rfl⟩
    | parameter e => exact .inl ⟨rfl, rfl⟩
    | transform typeName cause => exact .inr ⟨⟨_, by simp, rfl⟩, rfl⟩
    | _ => rfl
  | step e =>
    cases e with
    | malformedExpression e => exact .inr ⟨⟨_, by decide, rfl⟩, rfl⟩
    | malformedTable e => exact .inl ⟨rfl, rfl⟩
    | conversionFailure e => exact .inl ⟨rfl, rfl⟩
    | _ => rfl

theorem chain_of_none (h : e.held? = none) : e.chain = [] := by
  have hall := passed_on_or_named e
  rwa [h] at hall

theorem message_and_chain_of_some (h : e.held? = some c) :
    e.message = c.message ∧ e.chain = c.chain ∨
      EndsIn e.message c.message ∧ e.chain = c.message :: c.chain := by
  have hall := passed_on_or_named e
  rwa [h] at hall

theorem speaks_of_none (h : e.held? = none) : e.speaks = true := by
  simp [speaks, h]

theorem speaks_of_some (h : e.held? = some c) : e.speaks = true ↔ e.message ≠ c.message := by
  simp [speaks, h]

end Cause

theorem EndsIn.ne {outer inner : String} (h : EndsIn outer inner) : outer ≠ inner := by
  obtain ⟨words, hne, rfl⟩ := h
  simpa using hne

theorem EndsIn.trans {outer inner innermost : String} (h : EndsIn outer inner)
    (h' : EndsIn inner innermost) : EndsIn outer innermost := by
  obtain ⟨words, hne, rfl⟩ := h
  obtain ⟨words', hne', rfl⟩ := h'
  exact ⟨words ++ words', by simp [hne], String.append_assoc.symm⟩

/-- What an error says and the texts of its causes, as against the errors that lie in each other. -/
structure Tells (message : String) (chain : List String) (errors : List Cause) : Prop where
  /-- The errors that have words of their own are told, each once and in their order. -/
  once : message :: chain = (errors.filter Cause.speaks).map Cause.message
  /-- Each text ends in those of all causes behind it. -/
  ends : (message :: chain).Pairwise EndsIn
  /-- The last text is that of the error that holds none. -/
  root : ∃ root ∈ errors.getLast?, root.held? = none ∧ root.message ∈ (message :: chain).getLast?

namespace Tells

variable {e c : Cause}

theorem of_none (h : e.held? = none) : Tells e.message e.chain e.within := by
  rw [Cause.chain_of_none h, Cause.within_of_none h]
  refine ⟨?_, List.pairwise_singleton _ _, e, rfl, h, rfl⟩
  rw [List.filter_cons_of_pos (Cause.speaks_of_none h)]
  rfl

theorem root_within (h : e.held? = some c) {message : String} {chain : List String}
    (hc : Tells message chain c.within) : ∃ root ∈ e.within.getLast?, root.held? = none ∧
      root.message ∈ (message :: chain).getLast? := by
  obtain ⟨root, hroot, hnone, hlast⟩ := hc.root
  refine ⟨root, ?_, hnone, hlast⟩
  rw [Cause.within_of_some h, List.getLast?_cons_of_ne_nil Cause.within_ne_nil]
  exact hroot

theorem of_passed_on (h : e.held? = some c) (hmessage : e.message = c.message)
    (hchain : e.chain = c.chain) (hc : Tells c.message c.chain c.within) :
    Tells e.message e.chain e.within := by
  rw [hmessage, hchain]
  refine ⟨?_, hc.ends, hc.root_within h⟩
  have hsilent : ¬e.speaks = true := fun hs => (Cause.speaks_of_some h).1 hs hmessage
  rw [hc.once, Cause.within_of_some h, List.filter_cons_of_neg hsilent]

theorem of_named (h : e.held? = some c) (hmessage : EndsIn e.message c.message)
    (hchain : e.chain = c.message :: c.chain) (hc : Tells c.message c.chain c.within) :
    Tells e.message e.chain e.within := by
  rw [hchain]
  refine ⟨?_, List.pairwise_cons.2 ⟨fun text htext => ?_, hc.ends⟩, ?_⟩
  · have hspeaks : e.speaks = true := (Cause.speaks_of_some h).2 hmessage.ne
    rw [hc.once, Cause.within_of_some h, List.filter_cons_of_pos hspeaks, List.map_cons]
  · rcases List.mem_cons.1 htext with rfl | htext
    · exact hmessage
    · exact hmessage.trans ((List.pairwise_cons.1 hc.ends).1 text htext)
  · obtain ⟨root, hroot, hnone, hlast⟩ := hc.root_within h
    exact ⟨root, hroot, hnone, by rwa [List.getLast?_cons_cons]⟩

end Tells

/-- By recursion on the error inside. -/
theorem Cause.tells (e : Cause) : Tells e.message e.chain e.within := by
  cases h : e.held? with
  | none => exact .of_none h
  | some c =>
    have hc : Tells c.message c.chain c.within := c.tells
    rcases message_and_chain_of_some h with ⟨hmessage, hchain⟩ | ⟨hmessage, hchain⟩
    · exact .of_passed_on h hmessage hchain hc
    · exact .of_named h hmessage hchain hc
termination_by e
decreasing_by exact h

/-- Whatever errors lie in each other, those that have words of their own are told once each, and
every text ends in the texts of all causes behind it, down to the innermost one. Faults of tables,
of conversions and of captured texts keep their texts and causes where a step passes them on. -/
theorem causes_told_once :
    (∀ e : Cause, Tells e.message e.chain e.within) ∧
    (∀ e : PatternError, Tells e.message e.chain (Cause.pattern e).within) ∧
    (∀ e : ParameterError, Tells e.message e.chain (Cause.parameter e).within) ∧
    (∀ e : TableError, Tells e.message e.chain (Cause.table e).within) ∧
    (∀ e : ConversionError, Tells e.message e.chain (Cause.conversion e).within) ∧
    (∀ e : StepError, Tells e.message e.chain (Cause.step e).within) ∧
    (∀ e : TableError, (StepError.malformedTable e).message = e.message ∧
      (StepError.malformedTable e).chain = e.chain) ∧
    (∀ e : ConversionError, (StepError.conversionFailure e).message = e.message ∧
      (StepError.conversionFailure e).chain = e.chain) ∧
    ∀ e : ParameterError, (StepError.conversionFailure (.parameter e)).message = e.message ∧
      (StepError.conversionFailure (.parameter e)).chain = e.chain :=
  ⟨Cause.tells, fun e => (Cause.pattern e).tells, fun e => (Cause.parameter e).tells,
    fun e => (Cause.table e).tells, fun e => (Cause.conversion e).tells,
    fun e => (Cause.step e).tells, fun _ => ⟨rfl, rfl⟩, fun _ => ⟨rfl, rfl⟩, fun _ => ⟨rfl, rfl⟩⟩

/-- Of the three errors around the root two are told besides it: the step passes its fault on. -/
example : (StepError.conversionFailure (.transform "u8" (.trimmed (.scalar .invalidDigit)))).chain =
    ["failed to parse trimmed value: invalid digit found in string",
      "invalid digit found in string"] := by decide

end StepPhrase
