/-!
# Messages

Some operations report what they do. `Logged α` is a value of `α` together with
the messages reported on the way to it, oldest first. The messages never
influence the value: `Logged.value` commutes with the monad operations.
-/

namespace PolygonRenderer

/-- How important a message is. -/
inductive Level where
  | trace
  | debug
  | info
  | warn
deriving DecidableEq, Repr

namespace Level

/-- The name of a level in front of a message. -/
def name : Level → String
  | trace => "TRACE"
  | debug => "DEBUG"
  | info => "INFO"
  | warn => "WARN"

end Level

/-- One line of the log. -/
structure Message where
  level : Level
  text : String
deriving DecidableEq, Repr

namespace Message

/-- The level and the text on one line. -/
def render (m : Message) : String :=
  m.level.name ++ " " ++ m.text

end Message

/-- A value and the messages reported while it was computed. -/
structure Logged (α : Type) where
  value : α
  messages : List Message

namespace Logged

variable {α β : Type}

instance : Monad Logged where
  pure a := ⟨a, []⟩
  bind
    | ⟨a, messages⟩, f =>
      let ⟨b, more⟩ := f a
      ⟨b, messages ++ more⟩

def report (level : Level) (text : String) : Logged Unit :=
  ⟨(), [⟨level, text⟩]⟩

@[simp] theorem value_pure (a : α) : (pure a : Logged α).value = a := rfl

@[simp] theorem value_bind (x : Logged α) (f : α → Logged β) :
    (x >>= f).value = (f x.value).value := rfl

end Logged

end PolygonRenderer
