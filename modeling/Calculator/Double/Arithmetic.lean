import Calculator.Double.Basic

/-!
# Arithmetic of doubles

Each operation gives the exact result on the quanta of its operands, rounded once to nearest. The cases
without an exact result (`∞ - ∞`, `0 * ∞`, `0 / 0`, `∞ / ∞`) are not numbers.
-/

namespace Calculator.Double

open Magnitude (nearest quantaPerOne)

/-- An exact zero that opposite operands cancel to is positive. -/
def add : Double → Double → Double
  | signed s a, signed t b =>
    if a.isInfinite then
      if b.isInfinite && s != t then nan else signed s a
    else if b.isInfinite then signed t b
    else if s = t then signed s (nearest (a.quanta + b.quanta) 1)
    else if b.quanta < a.quanta then signed s (nearest (a.quanta - b.quanta) 1)
    else if a.quanta < b.quanta then signed t (nearest (b.quanta - a.quanta) 1)
    else zero
  | _, _ => nan

def sub (x y : Double) : Double := add x (-y)

def mul : Double → Double → Double
  | signed s a, signed t b =>
    if a.isInfinite && b.isZero || a.isZero && b.isInfinite then nan
    else if a.isInfinite || b.isInfinite then signed (s != t) .infinite
    else signed (s != t) (nearest (a.quanta * b.quanta) quantaPerOne)
  | _, _ => nan

def div : Double → Double → Double
  | signed s a, signed t b =>
    if a.isInfinite && b.isInfinite || a.isZero && b.isZero then nan
    else if a.isInfinite || b.isZero then signed (s != t) .infinite
    else if b.isInfinite then signed (s != t) .zero
    else signed (s != t) (nearest (quantaPerOne * a.quanta) b.quanta)
  | _, _ => nan

instance : Add Double := ⟨add⟩
instance : Sub Double := ⟨sub⟩
instance : Mul Double := ⟨mul⟩
instance : Div Double := ⟨div⟩

end Calculator.Double
