import Calculator.Evaluation
import Calculator.Sample.Expression
import Calculator.SinglePass

/-!
# Campaigns

Laws of the evaluation tried on samples of fixed seeds. A campaign reports the events of all evaluations
that it makes, and ends with the first sample that breaks its law.
-/

namespace Calculator

namespace Logged

/-- Whether a check holds of all elements; none is checked after one that fails. -/
def all {α : Type} (check : α → Logged Bool) : List α → Logged Bool
  | [] => return true
  | a :: rest => do
    if ← check a then all check rest else return false

end Logged

inductive Campaign where
  | precedence
  | idempotence
  | roundTrip
  | soup
  deriving DecidableEq

namespace Campaign

/-- Both ways of evaluation give one number. -/
def agrees (tokens : List Token) : Logged Bool := do
  match ← Logged.calculate (Token.join "" tokens) with
  | .ok value => return value.sameNumber (SinglePass.value tokens)
  | .error _ => return false

/-- A second evaluation gives what the first one gave. -/
def repeats (expression : String) : Logged Bool := do
  let first ← Logged.evaluate expression
  let second ← Logged.evaluate expression
  return match first, second with
    | .ok a, .ok b => a = b
    | .error a, .error b => a = b
    | _, _ => false

/-- What is written is scanned as it was. -/
def rereads (tokens : List Token) : Bool :=
  match tokenize (Token.join "" tokens) with
  | .ok again => again = tokens
  | .error _ => false

/-- A short text gives a finite value, or an error that is not an overflow. -/
def staysInRange (text : String) : Logged Bool := do
  match ← Logged.calculate text with
  | .ok value => return value.isFinite
  | .error e => return e.kind ≠ .outOfRange

def run : Campaign → Logged Bool
  | precedence =>
    Logged.all agrees (Sample.fromSeed 0xC0FFEE (Sample.many (Sample.expression 8) 400))
  | idempotence =>
    let samples := Sample.fromSeed 0xBADC0DE (Sample.many (Sample.expression 6) 100)
    Logged.all repeats (samples.map (Token.join "") ++ ["5/0", "", "3+", "2+a"])
  | roundTrip =>
    return (Sample.fromSeed 0x5EED (Sample.many (Sample.expression 10) 200)).all rereads
  | soup => do
    let texts := Sample.fromSeed 0xFEED (Sample.many Sample.soup 500)
    let inRange ← Logged.all staysInRange texts
    let outcomes := texts.map fun text => (calculate text).toBool
    return inRange && outcomes.contains true && outcomes.contains false

end Campaign

end Calculator
