/-! Values together with the records logged while they were made. -/
namespace StepPhrase

inductive Level where
  | debug
  | warn
  deriving DecidableEq, Repr

structure Record where
  level : Level
  text : String
  deriving DecidableEq, Repr

structure Logged (α : Type u) where
  value : α
  log : List Record := []

namespace Logged

def record (level : Level) (text : String) : Logged Unit := ⟨(), [⟨level, text⟩]⟩

/-- Logs the text if there is one. -/
def warnIf (text : Option String) : Logged Unit := ⟨(), (text.map (Record.mk .warn)).toList⟩

instance : Monad Logged where
  pure a := ⟨a, []⟩
  bind x f := ⟨(f x.value).value, x.log ++ (f x.value).log⟩

@[simp] theorem value_pure {α : Type u} (a : α) : (pure a : Logged α).value = a := rfl

@[simp] theorem log_pure {α : Type u} (a : α) : (pure a : Logged α).log = [] := rfl

@[simp] theorem value_bind {α β : Type u} (x : Logged α) (f : α → Logged β) :
    (x >>= f).value = (f x.value).value := rfl

@[simp] theorem log_bind {α β : Type u} (x : Logged α) (f : α → Logged β) :
    (x >>= f).log = x.log ++ (f x.value).log := rfl

end Logged

end StepPhrase
