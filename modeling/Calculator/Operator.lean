import Calculator.Double.Arithmetic
import Calculator.Error

/-!
# Operators

The four operators, their two tiers of precedence, and their application to doubles, which never gives a
value that is not finite.
-/

namespace Calculator

/-- The multiplicative tier binds tighter. -/
inductive Tier where
  | multiplicative
  | additive
  deriving DecidableEq

inductive Operator where
  | plus
  | minus
  | times
  | divide
  deriving DecidableEq

namespace Operator

def symbol : Operator → Char
  | plus => '+'
  | minus => '-'
  | times => '*'
  | divide => '/'

def ofSymbol? : Char → Option Operator
  | '+' => some plus
  | '-' => some minus
  | '*' => some times
  | '/' => some divide
  | _ => none

theorem ofSymbol?_symbol (op : Operator) : ofSymbol? op.symbol = some op := by
  cases op <;> rfl

theorem symbol_of_ofSymbol? {c : Char} {op : Operator} (h : ofSymbol? c = some op) : op.symbol = c := by
  unfold ofSymbol? at h
  split at h <;> simp_all [symbol] <;> subst h <;> rfl

def tier : Operator → Tier
  | plus | minus => .additive
  | times | divide => .multiplicative

theorem tier_eq_additive_iff {op : Operator} : op.tier = .additive ↔ op = plus ∨ op = minus := by
  cases op <;> decide

theorem tier_eq_multiplicative_iff {op : Operator} : op.tier = .multiplicative ↔ op = times ∨ op = divide := by
  cases op <;> decide

/-- A zero on the right of a division is found before the operands are looked at any further. -/
def apply (op : Operator) (left right : Double) : Except EvalError Double :=
  if op = divide ∧ right.isZero then
    .error .divisionByZero
  else
    let value := match op with
      | plus => left + right
      | minus => left - right
      | times => left * right
      | divide => left / right
    if value.isFinite then .ok value else .error .outOfRange

end Operator

end Calculator
