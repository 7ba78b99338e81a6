import Calculator.Error
import Calculator.Log.Level

/-!
# Events

What an evaluation reports while it runs, and computations that report events.
-/

namespace Calculator

inductive Event where
  /-- The expression has been cut into this many tokens and is reduced next. -/
  | evaluation (expression : String) (tokens : Nat)
  | failure (expression : String) (error : EvalError)
  deriving DecidableEq

namespace Event

def level : Event → Log.Level := fun _ => .debug

def message : Event → String
  | evaluation _ _ => "évaluation"
  | failure _ error => "échec: " ++ error.message

/-- The kind of the error, if there is one. -/
def kind? : Event → Option ErrorKind
  | evaluation _ _ => none
  | failure _ error => some error.kind

end Event

/-- A value and the events on the way to it, in order. -/
structure Logged (α : Type) where
  value : α
  events : List Event

namespace Logged

def emit (event : Event) : Logged Unit := ⟨(), [event]⟩

instance : Monad Logged where
  pure a := ⟨a, []⟩
  bind x f :=
    let y := f x.value
    ⟨y.value, x.events ++ y.events⟩

end Logged

end Calculator
