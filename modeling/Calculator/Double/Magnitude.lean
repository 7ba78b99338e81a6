import Calculator.Decimal.Basic

/-!
# Magnitudes of doubles

The magnitudes of binary64 in increasing order: zero, the subnormal ones, the normal ones, infinity. A
magnitude is its rank in this order, which is also the word that encodes it. Its value is counted in
quanta of `2 ^ -1074`, of which every finite magnitude is a whole number, so that rounding needs natural
numbers only.
-/

namespace Calculator

namespace Magnitude

/-- How many quanta make one. -/
def quantaPerOne : Nat := 2 ^ (1074 : Nat)

/-- The rank of infinity: the biased exponent is all ones and the fraction zero. -/
def infiniteRank : Nat := 0x7FF0000000000000

/-- The quanta of a rank: `52` bits of fraction, and a spacing that doubles with each further binade.
The rank of infinity gets the value that its binade would start with. -/
def quantaAt (rank : Nat) : Nat :=
  let binade := rank / 2 ^ (52 : Nat) - 1
  (rank - 2 ^ (52 : Nat) * binade) * 2 ^ binade

/-- The last rank that has no more than the given quanta, as if the ranks went on for ever. -/
def rankBelow (quanta : Nat) : Nat :=
  let binade := quanta.log2 - 52
  2 ^ (52 : Nat) * binade + quanta / 2 ^ binade

/-! ## The order of the ranks -/

theorem quantaAt_of_significand {binade significand : Nat} (h : binade = 0 ∨ 2 ^ (52 : Nat) ≤ significand)
    (hlt : significand < 2 ^ (53 : Nat)) :
    quantaAt (2 ^ (52 : Nat) * binade + significand) = significand * 2 ^ binade := by
  have hb : (2 ^ 52 * binade + significand) / 2 ^ 52 - 1 = binade := by omega
  simp only [quantaAt, hb, Nat.add_sub_cancel_left]

/-- The ranks of a binade are evenly spaced, and so is the step into the next one. -/
theorem quantaAt_succ (rank : Nat) : quantaAt (rank + 1) = quantaAt rank + 2 ^ (rank / 2 ^ (52 : Nat) - 1) := by
  by_cases h : (rank + 1) / 2 ^ 52 - 1 = rank / 2 ^ 52 - 1
  · have hs : rank + 1 - 2 ^ 52 * (rank / 2 ^ 52 - 1) = (rank - 2 ^ 52 * (rank / 2 ^ 52 - 1)) + 1 := by omega
    simp only [quantaAt, h, hs, Nat.add_mul, Nat.one_mul]
  · obtain ⟨b, hb⟩ : ∃ b, rank / 2 ^ 52 - 1 = b := ⟨_, rfl⟩
    have hb' : (rank + 1) / 2 ^ 52 - 1 = b + 1 := by omega
    have h1 : rank + 1 - 2 ^ 52 * (b + 1) = 2 ^ 52 := by omega
    have h2 : rank - 2 ^ 52 * b = 2 ^ 53 - 1 := by omega
    simp only [quantaAt, hb, hb', h1, h2]
    have := Nat.pow_succ (n := 2) (m := b)
    omega

theorem quantaAt_lt_succ (rank : Nat) : quantaAt rank < quantaAt (rank + 1) := by
  rw [quantaAt_succ]
  exact Nat.lt_add_of_pos_right (Nat.two_pow_pos _)

/-- What is left of the quanta in a binade is a significand that belongs there. -/
theorem rankBelow_significand (quanta : Nat) :
    (quanta.log2 - 52 = 0 ∨ 2 ^ (52 : Nat) ≤ quanta / 2 ^ (quanta.log2 - 52)) ∧
      quanta / 2 ^ (quanta.log2 - 52) < 2 ^ (53 : Nat) := by
  constructor
  · by_cases h : quanta.log2 ≤ 52
    · exact .inl (by omega)
    · right
      have hq : quanta ≠ 0 := by rintro rfl; simp at h
      rw [Nat.le_div_iff_mul_le (Nat.two_pow_pos _), ← Nat.pow_add]
      have := Nat.log2_self_le hq
      rwa [show 52 + (quanta.log2 - 52) = quanta.log2 by omega]
  · rw [Nat.div_lt_iff_lt_mul (Nat.two_pow_pos _), ← Nat.pow_add]
    exact Nat.lt_of_lt_of_le Nat.lt_log2_self (Nat.pow_le_pow_right (by decide) (by omega))

theorem quantaAt_rankBelow (quanta : Nat) :
    quantaAt (rankBelow quanta) = quanta / 2 ^ (quanta.log2 - 52) * 2 ^ (quanta.log2 - 52) :=
  quantaAt_of_significand (rankBelow_significand quanta).1 (rankBelow_significand quanta).2

theorem quantaAt_rankBelow_le (quanta : Nat) : quantaAt (rankBelow quanta) ≤ quanta := by
  rw [quantaAt_rankBelow]
  exact Nat.div_mul_le_self _ _

theorem lt_quantaAt_rankBelow_succ (quanta : Nat) : quanta < quantaAt (rankBelow quanta + 1) := by
  obtain ⟨h, hlt⟩ := rankBelow_significand quanta
  have hb : rankBelow quanta / 2 ^ 52 - 1 = quanta.log2 - 52 := by
    simp only [rankBelow]
    omega
  rw [quantaAt_succ, quantaAt_rankBelow, hb, ← Nat.succ_mul]
  exact (Nat.div_lt_iff_lt_mul (Nat.two_pow_pos _)).1 (Nat.lt_succ_self _)

theorem quantaAt_lt_of_lt {a b : Nat} (h : a < b) : quantaAt a < quantaAt b := by
  induction h with
  | refl => exact quantaAt_lt_succ a
  | step _ ih => exact Nat.lt_trans ih (quantaAt_lt_succ _)

theorem quantaAt_le_iff {a b : Nat} : quantaAt a ≤ quantaAt b ↔ a ≤ b := by
  constructor
  · intro h
    exact Nat.le_of_not_lt fun hlt => Nat.not_lt_of_le h (quantaAt_lt_of_lt hlt)
  · intro h
    rcases Nat.lt_or_eq_of_le h with hlt | rfl
    · exact Nat.le_of_lt (quantaAt_lt_of_lt hlt)
    · exact Nat.le_refl _

theorem rankBelow_quantaAt (rank : Nat) : rankBelow (quantaAt rank) = rank := by
  apply Nat.le_antisymm
  · exact quantaAt_le_iff.1 (quantaAt_rankBelow_le _)
  · apply Nat.le_of_not_lt
    intro h
    have hlt := lt_quantaAt_rankBelow_succ (quantaAt rank)
    exact Nat.not_lt_of_le (quantaAt_le_iff.2 h) hlt

end Magnitude

/-! ## The magnitudes -/

/-- The magnitude of a double that is a number. -/
structure Magnitude where
  rank : Nat
  rank_le : rank ≤ Magnitude.infiniteRank
  deriving DecidableEq

namespace Magnitude

def zero : Magnitude := ⟨0, Nat.zero_le _⟩

def infinite : Magnitude := ⟨infiniteRank, Nat.le_refl _⟩

/-- Ranks past infinity count as infinity. -/
def ofRank (rank : Nat) : Magnitude := ⟨min rank infiniteRank, Nat.min_le_right _ _⟩

def isInfinite (m : Magnitude) : Bool := m.rank == infiniteRank

def isZero (m : Magnitude) : Bool := m.rank == 0

def quanta (m : Magnitude) : Nat := quantaAt m.rank

/-- Rounds `num / den` quanta to nearest. A tie goes to the even rank, and what rounds past the last finite
magnitude is infinite. -/
def nearest (num den : Nat) : Magnitude :=
  let low := rankBelow (num / den)
  let middle := den * (quantaAt low + quantaAt (low + 1))
  if 2 * num < middle then ofRank low
  else if middle < 2 * num then ofRank (low + 1)
  else ofRank (low + low % 2)

theorem ofRank_rank (m : Magnitude) : ofRank m.rank = m := by
  obtain ⟨rank, h⟩ := m
  simp [ofRank, Nat.min_eq_left h]

/-- Nothing is lost where nothing has to be rounded. -/
theorem nearest_quanta (m : Magnitude) {den : Nat} (h : 0 < den) : nearest (den * m.quanta) den = m := by
  have hlt : 2 * (den * m.quanta) < den * (m.quanta + quantaAt (m.rank + 1)) := by
    rw [Nat.mul_left_comm]
    apply Nat.mul_lt_mul_of_pos_left _ h
    have := quantaAt_lt_succ m.rank
    simp only [quanta]
    omega
  have hr : rankBelow m.quanta = m.rank := rankBelow_quantaAt m.rank
  have hq : quantaAt m.rank = m.quanta := rfl
  simp only [nearest, Nat.mul_div_cancel_left _ h, hr, hq, hlt, ↓reduceIte, ofRank_rank]

end Magnitude

end Calculator
