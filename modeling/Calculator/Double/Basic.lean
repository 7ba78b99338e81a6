import Calculator.Double.Magnitude

/-!
# Doubles

The values of binary64: not a number, or a sign and a magnitude. All that is not a number is one value, so
equality of doubles is equality of bits; `sameNumber` is their comparison as numbers.
-/

namespace Calculator

inductive Double where
  | nan
  | signed (negative : Bool) (magnitude : Magnitude)
  deriving DecidableEq

namespace Double

def zero : Double := signed false .zero

instance : OfNat Double 0 := ⟨zero⟩

def ofRatio (num den : Nat) : Double :=
  signed false (.nearest (Magnitude.quantaPerOne * num) den)

def isFinite : Double → Bool
  | nan => false
  | signed _ m => !m.isInfinite

/-- Both zeros, whatever their sign. -/
def isZero : Double → Bool
  | nan => false
  | signed _ m => m.isZero

/-- The comparison of numbers: the two zeros are one, and what is not a number is the same as nothing. -/
def sameNumber : Double → Double → Bool
  | signed s a, signed t b => a = b && (s = t || a.isZero)
  | _, _ => false

def neg : Double → Double
  | nan => nan
  | signed s m => signed (!s) m

instance : Neg Double := ⟨neg⟩

/-! ## Encoding -/

/-- The highest bit is the sign, and the others are the rank. -/
def ofBits (bits : UInt64) : Double :=
  let rank := bits.toNat % 2 ^ (63 : Nat)
  if h : rank ≤ Magnitude.infiniteRank then signed (bits.toNat / 2 ^ (63 : Nat) = 1) ⟨rank, h⟩ else nan

def toBits : Double → UInt64
  | nan => 0x7FF8000000000000
  | signed s m => .ofNat (2 ^ (63 : Nat) * s.toNat + m.rank)

theorem ofBits_toBits (x : Double) : ofBits x.toBits = x := by
  cases x with
  | nan => decide
  | signed s m =>
    obtain ⟨rank, h⟩ := m
    have hr : rank < 2 ^ 63 := Nat.lt_of_le_of_lt h (by decide)
    have hs : s.toNat < 2 := by cases s <;> decide
    have hn : (UInt64.ofNat (2 ^ 63 * s.toNat + rank)).toNat = 2 ^ 63 * s.toNat + rank := by
      rw [UInt64.toNat_ofNat']
      exact Nat.mod_eq_of_lt (by omega)
    have h1 : (2 ^ 63 * s.toNat + rank) % 2 ^ 63 = rank := by omega
    have h2 : (2 ^ 63 * s.toNat + rank) / 2 ^ 63 = s.toNat := by omega
    simp only [ofBits, toBits, hn, h1, h2, h, ↓reduceDIte]
    cases s <;> rfl

end Double

end Calculator
