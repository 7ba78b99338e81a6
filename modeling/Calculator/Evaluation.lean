import Calculator.Chain
import Calculator.Log.Event
import Calculator.Token

/-!
# Evaluation

From the text of an expression to its value, and to the text that shows it or says what is wrong. Nothing
is kept from one evaluation to the next.
-/

namespace Calculator

namespace Logged

def calculate (expression : String) : Logged (Except EvalError Double) := do
  match tokenize expression with
  | .error e => return .error e
  | .ok tokens =>
    emit (.evaluation expression tokens.length)
    return reduce tokens

def evaluate (expression : String) : Logged (Except String String) := do
  match ← calculate expression with
  | .ok value => return .ok value.resultText
  | .error e =>
    emit (.failure expression e)
    return .error e.message

end Logged

def calculate (expression : String) : Except EvalError Double := (Logged.calculate expression).value

/-- The text of the result, or the message of the error. -/
def evaluate (expression : String) : Except String String := (Logged.evaluate expression).value

theorem calculate_eq (expression : String) : calculate expression = (tokenize expression).bind reduce := by
  unfold calculate Logged.calculate
  cases tokenize expression <;> rfl

end Calculator
