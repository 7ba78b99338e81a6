import Calculator.Double.Arithmetic
import Calculator.Proofs.Decimal.Integral
import Mathlib.Data.Nat.Find

/-!
# Heights

The height of a double is the exponent of a power of two that it does not exceed, and its reach is an exponent that does
as well for its reciprocal. No operation gives a result higher than its operands together, since rounding does not lift
anything over a power of two. What overflows has a height of `1024`, and nothing is higher.
-/

namespace Calculator

namespace Magnitude

variable {m : Magnitude} {num den w : Nat}

/-- The height of infinity. -/
def heightLimit : Nat := 1024

/-! ## Rounding -/

theorem nearest_rank_le (hd : 0 < den) (h : num ≤ den * m.quanta) : (nearest num den).rank ≤ m.rank := by
  rcases Nat.lt_or_eq_of_le h with hlt | rfl
  · have hfloor : num / den < m.quanta := (Nat.div_lt_iff_lt_mul hd).mpr (by rwa [Nat.mul_comm])
    have hlow : rankBelow (num / den) < m.rank := Nat.lt_of_not_le fun hle =>
      Nat.not_le_of_lt (Nat.lt_of_le_of_lt (quantaAt_rankBelow_le (num / den)) hfloor) (quantaAt_le_iff.mpr hle)
    have hmin {rank : Nat} (h : rank ≤ m.rank) : (ofRank rank).rank ≤ m.rank := Nat.le_trans (Nat.min_le_left _ _) h
    unfold nearest
    dsimp only
    split
    · exact hmin (Nat.le_of_lt hlow)
    · split
      · exact hmin hlow
      · exact hmin (by omega)
  · rw [nearest_quanta m hd]

theorem twoPow_le_iff {a b : Nat} : quantaPerOne * 2 ^ a ≤ quantaPerOne * 2 ^ b ↔ a ≤ b := by
  rw [Nat.mul_le_mul_left_iff quantaPerOne_pos, Nat.pow_le_pow_iff_right (by decide)]

theorem twoPow_add_le {a b : Nat} (ha : 0 < a) (hb : 0 < b) :
    quantaPerOne * 2 ^ a + quantaPerOne * 2 ^ b ≤ quantaPerOne * 2 ^ (a + b) := by
  have htwo {n : Nat} (h : 0 < n) : 2 ≤ 2 ^ n := Nat.le_pow h
  rw [← Nat.mul_add, Nat.pow_add]
  exact Nat.mul_le_mul_left quantaPerOne (Nat.add_le_mul (htwo ha) (htwo hb))

theorem quantaAt_infiniteRank : quantaAt infiniteRank = quantaPerOne * 2 ^ heightLimit := by decide +kernel

theorem quanta_le (m : Magnitude) : m.quanta ≤ quantaPerOne * 2 ^ heightLimit := by
  rw [← quantaAt_infiniteRank]
  exact quantaAt_le_iff.mpr m.rank_le

theorem exists_twoPow (h : w ≤ heightLimit) : ∃ m : Magnitude, m.quanta = quantaPerOne * 2 ^ w := by
  have hrank (exponent : Nat) : ∃ rank, quantaAt rank = 2 ^ exponent * 2 ^ w := by
    obtain ⟨rank, hr⟩ := exists_quantaAt (n := 1) (exponent + w) (by decide)
    exact ⟨rank, by rw [hr, Nat.mul_one, Nat.pow_add]⟩
  obtain ⟨rank, hquanta⟩ : ∃ rank, quantaAt rank = quantaPerOne * 2 ^ w := hrank 1074
  refine ⟨⟨rank, quantaAt_le_iff.mp ?_⟩, hquanta⟩
  rw [hquanta, quantaAt_infiniteRank]
  exact twoPow_le_iff.mpr h

/-! ## Heights -/

theorem exists_height (m : Magnitude) : ∃ w : Nat, 0 < w ∧ m.quanta ≤ quantaPerOne * 2 ^ w :=
  ⟨heightLimit, by decide, m.quanta_le⟩

/-- The least exponent from `1` on of a power of two that the magnitude does not exceed. -/
def height (m : Magnitude) : Nat := Nat.find m.exists_height

theorem height_pos (m : Magnitude) : 0 < m.height := (Nat.find_spec m.exists_height).1

theorem quanta_le_height (m : Magnitude) : m.quanta ≤ quantaPerOne * 2 ^ m.height := (Nat.find_spec m.exists_height).2

theorem height_le (hw : 0 < w) (h : m.quanta ≤ quantaPerOne * 2 ^ w) : m.height ≤ w :=
  Nat.find_min' m.exists_height ⟨hw, h⟩

theorem height_le_limit (m : Magnitude) : m.height ≤ heightLimit := height_le (by decide) m.quanta_le

theorem height_of_isInfinite (h : m.isInfinite) : m.height = heightLimit := by
  have hrank : m.rank = infiniteRank := eq_of_beq h
  have hle := m.quanta_le_height
  rw [quanta, hrank, quantaAt_infiniteRank] at hle
  exact Nat.le_antisymm m.height_le_limit (twoPow_le_iff.mp hle)

theorem height_nearest (hd : 0 < den) (hw : 0 < w) (h : num ≤ den * (quantaPerOne * 2 ^ w)) :
    (nearest num den).height ≤ w := by
  by_cases hlimit : w ≤ heightLimit
  · obtain ⟨bound, hb⟩ := exists_twoPow hlimit
    rw [← hb] at h
    refine height_le hw ?_
    rw [← hb]
    exact quantaAt_le_iff.mpr (nearest_rank_le hd h)
  · exact Nat.le_trans (height_le_limit _) (by omega)

/-! ## Reach -/

theorem le_quanta_mul (hw : 1074 ≤ w) (h : m.isZero = false) : quantaPerOne ≤ m.quanta * 2 ^ w := by
  have hpow (places : Nat) (h : places ≤ w) : 2 ^ places ≤ 2 ^ w := Nat.pow_le_pow_right Nat.two_pos h
  exact Nat.le_trans (hpow 1074 hw) (Nat.le_mul_of_pos_left _ (quanta_pos_of_isZero h))

theorem exists_reach (m : Magnitude) :
    ∃ w : Nat, m.height ≤ w ∧ (m.isZero = false → quantaPerOne ≤ m.quanta * 2 ^ w) :=
  ⟨1074, Nat.le_trans m.height_le_limit (by decide), le_quanta_mul (Nat.le_refl _)⟩

/-- The least exponent of a power of two that neither the magnitude nor its reciprocal exceeds, where a zero has no
reciprocal. -/
def reach (m : Magnitude) : Nat := Nat.find m.exists_reach

theorem height_le_reach (m : Magnitude) : m.height ≤ m.reach := (Nat.find_spec m.exists_reach).1

theorem le_quanta_reach (h : m.isZero = false) : quantaPerOne ≤ m.quanta * 2 ^ m.reach :=
  (Nat.find_spec m.exists_reach).2 h

theorem reach_le (hheight : m.height ≤ w) (h : m.isZero = false → quantaPerOne ≤ m.quanta * 2 ^ w) : m.reach ≤ w :=
  Nat.find_min' m.exists_reach ⟨hheight, h⟩

theorem reach_nearest (hd : 0 < den) (hw : 0 < w) (hnum : num ≤ den * (quantaPerOne * 2 ^ w))
    (hden : num ≠ 0 → den * quantaPerOne ≤ num * 2 ^ w) : (nearest num den).reach ≤ w := by
  refine reach_le (height_nearest hd hw hnum) fun hz => ?_
  by_cases hplaces : w ≤ 1074
  · obtain ⟨bound, hb, _⟩ := exists_dyadic hplaces (n := 1) (by decide)
    rw [Nat.mul_one, Nat.mul_comm] at hb
    have hne : num ≠ 0 := by
      rintro rfl
      have hzero : nearest (den * zero.quanta) den = zero := nearest_quanta zero hd
      rw [quanta_zero, Nat.mul_zero] at hzero
      rw [hzero] at hz
      cases hz
    have hbound : den * bound.quanta ≤ num := by
      refine Nat.le_of_mul_le_mul_right ?_ (Nat.two_pow_pos w)
      rw [Nat.mul_assoc, hb]
      exact hden hne
    have hle : bound.quanta ≤ (nearest num den).quanta := quantaAt_le_iff.mpr (rank_le_nearest hd hbound)
    rw [← hb]
    exact Nat.mul_le_mul_right _ hle
  · exact le_quanta_mul (Nat.le_of_not_le hplaces) hz

theorem reach_ofDecimal {d : Decimal} (hw : 0 < w) (hc : d.coefficient ≤ 2 ^ w) (hp : 10 ^ d.places ≤ 2 ^ w) :
    (ofDecimal d).reach ≤ w := by
  have hpower : 0 < 10 ^ d.places := Nat.pow_pos (by decide)
  refine reach_nearest hpower hw ?_ fun hne => ?_
  · exact Nat.le_trans (Nat.mul_le_mul_left quantaPerOne hc) (Nat.le_mul_of_pos_left _ hpower)
  · rw [Nat.mul_comm, Nat.mul_assoc]
    have hcoefficient : 0 < d.coefficient := Nat.pos_of_ne_zero fun h0 => hne (by rw [h0, Nat.mul_zero])
    exact Nat.mul_le_mul_left quantaPerOne (Nat.le_trans hp (Nat.le_mul_of_pos_left _ hcoefficient))

end Magnitude

namespace Double

open Magnitude (nearest quantaPerOne quantaPerOne_pos heightLimit)

variable {x y : Double} {s : Bool} {a b m : Magnitude} {num den w : Nat}

/-- What is not a number is as high as infinity. -/
def height : Double → Nat
  | nan => heightLimit
  | signed _ m => m.height

def reach : Double → Nat
  | nan => heightLimit
  | signed _ m => m.reach

theorem height_le_limit (x : Double) : x.height ≤ heightLimit := by
  cases x with
  | nan => exact Nat.le_refl _
  | signed s m => exact m.height_le_limit

theorem height_le_reach (x : Double) : x.height ≤ x.reach := by
  cases x with
  | nan => exact Nat.le_refl _
  | signed s m => exact m.height_le_reach

theorem height_of_not_isFinite (h : ¬x.isFinite) : x.height = heightLimit := by
  cases x with
  | nan => rfl
  | signed s m => exact Magnitude.height_of_isInfinite (by simpa using h)

/-! ## Operations -/

theorem height_le_of_isInfinite (h : a.isInfinite) (x : Double) : x.height ≤ a.height := by
  rw [Magnitude.height_of_isInfinite h]
  exact x.height_le_limit

theorem height_add (x y : Double) : (x + y).height ≤ x.height + y.height := by
  cases x with
  | nan => exact Nat.le_add_right _ _
  | signed s a => cases y with
      | nan => exact Nat.le_add_left _ _
      | signed t b =>
          have hsum : a.quanta + b.quanta ≤ quantaPerOne * 2 ^ (a.height + b.height) :=
            Nat.le_trans (Nat.add_le_add a.quanta_le_height b.quanta_le_height)
              (Magnitude.twoPow_add_le a.height_pos b.height_pos)
          have hpos : 0 < a.height + b.height := Nat.add_pos_left a.height_pos _
          have hnearest {n : Nat} (h : n ≤ a.quanta + b.quanta) : (nearest n 1).height ≤ a.height + b.height := by
            refine Magnitude.height_nearest Nat.one_pos hpos ?_
            rw [Nat.one_mul]
            exact Nat.le_trans h hsum
          change (add (signed s a) (signed t b)).height ≤ a.height + b.height
          simp only [add]
          split
          · rename_i hinf
            exact Nat.le_trans (height_le_of_isInfinite hinf _) (Nat.le_add_right _ _)
          · split
            · exact Nat.le_add_left _ _
            · split
              · exact hnearest (Nat.le_refl _)
              · split
                · exact hnearest (Nat.le_trans (Nat.sub_le _ _) (Nat.le_add_right _ _))
                · split
                  · exact hnearest (Nat.le_trans (Nat.sub_le _ _) (Nat.le_add_left _ _))
                  · exact Magnitude.height_le hpos (Nat.zero_le _)

theorem height_neg (x : Double) : (-x).height = x.height := by cases x <;> rfl

theorem height_sub (x y : Double) : (x - y).height ≤ x.height + y.height := by
  rw [← height_neg y]
  exact height_add x (-y)

theorem height_mul (x y : Double) : (x * y).height ≤ x.height + y.height := by
  cases x with
  | nan => exact Nat.le_add_right _ _
  | signed s a => cases y with
      | nan => exact Nat.le_add_left _ _
      | signed t b =>
          change (mul (signed s a) (signed t b)).height ≤ a.height + b.height
          by_cases ha : a.isInfinite
          · exact Nat.le_trans (height_le_of_isInfinite ha _) (Nat.le_add_right _ _)
          · by_cases hb : b.isInfinite
            · exact Nat.le_trans (height_le_of_isInfinite hb _) (Nat.le_add_left _ _)
            · simp only [mul, ha, hb, Bool.false_and, Bool.and_false, Bool.or_false, Bool.false_eq_true, ↓reduceIte]
              refine Magnitude.height_nearest quantaPerOne_pos (Nat.add_pos_left a.height_pos _) ?_
              calc a.quanta * b.quanta
                _ ≤ quantaPerOne * 2 ^ a.height * (quantaPerOne * 2 ^ b.height) :=
                    Nat.mul_le_mul a.quanta_le_height b.quanta_le_height
                _ = quantaPerOne * (quantaPerOne * 2 ^ (a.height + b.height)) := by
                    rw [Nat.pow_add, Nat.mul_mul_mul_comm, Nat.mul_assoc]

/-- A divisor brings a result as high as its reciprocal. -/
theorem height_div (x : Double) (hy : y.isZero = false) : (x / y).height ≤ x.height + y.reach := by
  cases x with
  | nan => exact Nat.le_add_right _ _
  | signed s a => cases y with
      | nan => exact Nat.le_add_left _ _
      | signed t b =>
          change (div (signed s a) (signed t b)).height ≤ a.height + b.reach
          have hz : b.isZero = false := hy
          by_cases ha : a.isInfinite
          · exact Nat.le_trans (height_le_of_isInfinite ha _) (Nat.le_add_right _ _)
          · by_cases hb : b.isInfinite
            · exact Nat.le_trans (height_le_of_isInfinite hb _) (Nat.le_trans b.height_le_reach (Nat.le_add_left _ _))
            · simp only [div, ha, hb, hz, Bool.and_false, Bool.or_false, Bool.false_eq_true, ↓reduceIte]
              refine Magnitude.height_nearest (Magnitude.quanta_pos_of_isZero hz) (Nat.add_pos_left a.height_pos _) ?_
              calc quantaPerOne * a.quanta
                _ ≤ b.quanta * 2 ^ b.reach * (quantaPerOne * 2 ^ a.height) :=
                    Nat.mul_le_mul (Magnitude.le_quanta_reach hz) a.quanta_le_height
                _ = b.quanta * (quantaPerOne * 2 ^ (a.height + b.reach)) := by
                    rw [Nat.pow_add, Nat.mul_mul_mul_comm, Nat.mul_assoc, Nat.mul_comm (2 ^ b.reach)]

end Double

end Calculator
