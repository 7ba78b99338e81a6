import Calculator.Double.Magnitude

/-!
# Shortest decimals

Which magnitude a decimal stands for, and which decimal a magnitude is written as: of the decimals that
read back as the magnitude those of fewest digits, and of these the nearest. The search goes through the
grids of multiples of a power of ten from coarse to fine. On a grid only the two neighbours of the exact
value have to be tried, because the decimals that read back as one magnitude form an interval around it.
-/

namespace Calculator

/-- The magnitude nearest to a decimal. -/
def Magnitude.ofDecimal (d : Decimal) : Magnitude :=
  .nearest (quantaPerOne * d.coefficient) (10 ^ d.places)

namespace Decimal

/-- The powers of ten from `10 ^ zeros` down to `10 ^ -places`. -/
def powers (zeros places : Nat) : List Decimal :=
  (List.range (zeros + 1)).reverse.map (fun k => ⟨10 ^ k, 0⟩)
    ++ (List.range places).map (fun k => ⟨1, k + 1⟩)

def scale (n : Nat) (power : Decimal) : Decimal := ⟨power.coefficient * n, power.places⟩

/-- The decimal that reads back as `m` among the two multiples of `power` around it: the nearer one, and the
upper one of two as near. -/
def onGrid? (m : Magnitude) (power : Decimal) : Option Decimal :=
  let num := 10 ^ power.places * m.quanta
  let den := Magnitude.quantaPerOne * power.coefficient
  let below := scale (num / den) power
  let above := scale (num / den + 1) power
  match decide (.ofDecimal below = m), decide (.ofDecimal above = m) with
  | true, true => some (if 2 * (num % den) < den then below else above)
  | true, false => some below
  | false, true => some above
  | false, false => none

/-- The exact value: a quantum is `5 ^ 1074 / 10 ^ 1074`. -/
def exact (m : Magnitude) : Decimal := ⟨5 ^ (1074 : Nat) * m.quanta, 1074⟩

/-- Grids finer than the exact value's own need not be searched, nor such as are coarser than the power of
ten next above it. -/
def shortest (m : Magnitude) : Decimal :=
  let whole := Nat.toDigits 10 (m.quanta / Magnitude.quantaPerOne)
  ((powers whole.length 1074).findSome? (onGrid? m)).getD (exact m)

end Decimal

end Calculator
