import Calculator.Decimal.Shortest
import Calculator.Double.Basic

/-!
# Doubles as text

A double is written as its shortest decimal behind its sign, a zero with its sign too. A result is written
in the same way, but no zero has a sign there, and an integral result below `10 ^ 15` is a plain numeral.
-/

namespace Calculator.Double

def ofDecimal (d : Decimal) : Double := signed false (.ofDecimal d)

def text : Double → String
  | nan => "NaN"
  | signed s m =>
    (if s then "-" else "") ++
      (if m.isInfinite then "inf" else String.ofList (Decimal.shortest m).write)

/-- From here on results have no numerals of their own. -/
def numeralLimit : Nat := 10 ^ (15 : Nat)

/-- The integer that a double is, if it is one below the limit. -/
def smallInteger? : Double → Option Int
  | nan => none
  | signed s m =>
    let whole := m.quanta / Magnitude.quantaPerOne
    if m.quanta % Magnitude.quantaPerOne = 0 ∧ whole < numeralLimit then
      some (if s then -whole else whole)
    else
      none

def resultText (x : Double) : String :=
  let x := if x.isZero then 0 else x
  match x.smallInteger? with
  | some n => toString n
  | none => x.text

end Calculator.Double
