import Calculator.Token

/-!
# Evaluation in a single pass

Another way to a value: a sum of terms, with the term being multiplied kept apart from the sum. It looks at
each token once, checks nothing and never fails. An operand that is missing counts as nothing, and an
overflow goes on as an infinity.
-/

namespace Calculator

structure SinglePass where
  sum : Double := 0
  /-- Whether the term is subtracted from the sum. -/
  negative : Bool := false
  term : Option Double := none
  /-- Whether the last multiplicative operator was a division; the next term does not reset this. -/
  dividing : Bool := false

namespace SinglePass

def total (state : SinglePass) : Double :=
  let term := state.term.getD 0
  if state.negative then state.sum - term else state.sum + term

def step (state : SinglePass) : Token → SinglePass
  | .number v =>
    let term := match state.term with
      | none => v
      | some t => if state.dividing then t / v else t * v
    { state with term := some term }
  | .operator .times => { state with dividing := false }
  | .operator .divide => { state with dividing := true }
  | .operator .plus => { state with sum := state.total, negative := false, term := none }
  | .operator .minus => { state with sum := state.total, negative := true, term := none }

def value (tokens : List Token) : Double := (tokens.foldl step {}).total

end SinglePass

end Calculator
