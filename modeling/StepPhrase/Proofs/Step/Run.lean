import StepPhrase.Proofs.Step.Created

/-! Runs: uses of one step, between changes of what is defined. -/
namespace StepPhrase

variable {κ : Type} [RecordKind κ]

inductive Request (κ : Type) [RecordKind κ] where
  | change (c : Change κ)
  | text (text : String)
  | docString (text : String)
  | table (rows : List (List String))

inductive Answer (κ : Type) [RecordKind κ] where
  | changed
  | arguments (result : Except StepError (Option (List (Argument κ))))
  | value (result : Except StepError (Value κ))

namespace Request

def change? : Request κ → Option (Change κ)
  | change c => some c
  | _ => none

/-- The changes among the requests. -/
def changes (requests : List (Request κ)) : List (Change κ) := requests.filterMap change?

theorem changes_cons {r : Request κ} {requests : List (Request κ)} :
    changes (r :: requests) = r.change?.toList ++ changes requests := by
  cases r <;> rfl

end Request

namespace Session

variable [DecidableEq κ] {s : Session κ} {step : Step κ} {r : Request κ}
  {past later : List (Request κ)}

/-- What the step answers. -/
def answer (s : Session κ) (step : Step κ) : Request κ → Answer κ
  | .change _ => .changed
  | .text text => .arguments (step.match? text)
  | .docString text => .value (step.docString s.registry text).value
  | .table rows => .value (step.table s.registry rows).value

/-- What all the requests are answered, one after the other. -/
def answers (step : Step κ) : Session κ → List (Request κ) → List (Answer κ)
  | _, [] => []
  | s, r :: rest => s.answer step r :: answers step (s.after r.change?.toList) rest

/-- Each request is answered as the changes before it have left things. -/
theorem answers_append_cons : (answers step s (past ++ r :: later))[past.length]? =
    some ((s.after (Request.changes past)).answer step r) := by
  induction past generalizing s with
  | nil => rfl
  | cons first past ih =>
    rw [Request.changes_cons, after_append, ← ih]
    rfl

end Session

end StepPhrase
