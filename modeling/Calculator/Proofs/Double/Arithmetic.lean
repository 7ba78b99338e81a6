import Calculator.Double.Arithmetic

/-!
# Finite results, zeros and signs

What the result of an operation says of the operands. No operation gives back a finite number from an operand on
the left that is none, and a zero adds nothing except to another zero.
-/

namespace Calculator

namespace Magnitude

theorem eq_zero_of_isZero {m : Magnitude} (h : m.isZero) : m = zero := by
  obtain ⟨rank, hr⟩ := m
  have he : rank = 0 := by simpa [isZero] using h
  subst he
  rfl

theorem quanta_zero : zero.quanta = 0 := rfl

theorem nearest_one (m : Magnitude) : nearest m.quanta 1 = m := by
  have h := nearest_quanta m Nat.one_pos
  rwa [Nat.one_mul] at h

/-- Whole quanta do not round to zero. -/
theorem eq_zero_of_isZero_nearest {n : Nat} (h : (nearest n 1).isZero) : n = 0 := by
  have h0 : quantaAt 0 = 0 := rfl
  have h1 : quantaAt 1 = 1 := rfl
  simp only [nearest, Nat.div_one, Nat.one_mul] at h
  split at h
  · rename_i hlt
    have hr : rankBelow n = 0 := by simpa [isZero, ofRank, infiniteRank] using h
    rw [hr, h0, h1] at hlt
    omega
  · split at h
    · simp [isZero, ofRank, infiniteRank] at h
    · rename_i hge hle
      have hr : rankBelow n = 0 := by
        have : rankBelow n + rankBelow n % 2 = 0 := by simpa [isZero, ofRank, infiniteRank] using h
        omega
      rw [hr, h0, h1] at hge hle
      omega

theorem quanta_pos_of_isZero {m : Magnitude} (h : m.isZero = false) : 0 < m.quanta := by
  have hr : 0 < m.rank := Nat.pos_of_ne_zero (by simpa [isZero] using h)
  exact Nat.lt_of_le_of_lt (Nat.zero_le _) (quantaAt_lt_of_lt hr)

theorem eq_zero_of_quanta {m : Magnitude} (h : m.quanta = 0) : m = zero := by
  cases hz : m.isZero with
  | true => exact eq_zero_of_isZero hz
  | false =>
      have := quanta_pos_of_isZero hz
      omega

end Magnitude

namespace Double

open Magnitude (nearest quanta_zero nearest_one)

variable {x y : Double} {s t : Bool} {a b : Magnitude}

@[simp] theorem isFinite_signed : (signed s a).isFinite = !a.isInfinite := rfl

/-- The sign bit, which what is no number does not have. -/
def isNegative : Double → Bool
  | nan => false
  | signed s _ => s

@[simp] theorem isFinite_neg : (-x).isFinite = x.isFinite := by cases x <;> rfl

/-! ## Finite results -/

theorem isFinite_of_add (h : (x + y).isFinite) : x.isFinite ∧ y.isFinite := by
  cases x with
  | nan => cases h
  | signed s a => cases y with
      | nan => cases h
      | signed t b =>
          change (add (signed s a) (signed t b)).isFinite at h
          simp only [add] at h
          cases ha : a.isInfinite with
          | true =>
              rw [if_pos ha] at h
              split at h
              · cases h
              · simp [ha] at h
          | false => cases hb : b.isInfinite with
              | true => simp [ha, hb] at h
              | false => simp [ha, hb]

theorem isFinite_of_sub (h : (x - y).isFinite) : x.isFinite ∧ y.isFinite := by
  have hn : x.isFinite ∧ (-y).isFinite := isFinite_of_add h
  rwa [isFinite_neg] at hn

theorem isFinite_of_mul (h : (x * y).isFinite) : x.isFinite := by
  cases x with
  | nan => cases h
  | signed s a => cases y with
      | nan => cases h
      | signed t b =>
          change (mul (signed s a) (signed t b)).isFinite at h
          simp only [mul] at h
          cases ha : a.isInfinite with
          | false => simp [ha]
          | true =>
              split at h
              · cases h
              · simp only [ha, Bool.true_or, ↓reduceIte] at h
                cases h

theorem isFinite_of_div (h : (x / y).isFinite) : x.isFinite ∧ y.isZero = false := by
  cases x with
  | nan => cases h
  | signed s a => cases y with
      | nan => cases h
      | signed t b =>
          change (div (signed s a) (signed t b)).isFinite at h
          simp only [div] at h
          split at h
          · cases h
          · split at h
            · cases h
            · rename_i hinf
              simp only [Bool.or_eq_true, not_or, Bool.not_eq_true] at hinf
              exact ⟨by simp [hinf.1], hinf.2⟩

/-! ## Zeros -/

theorem eq_signed_of_isZero (h : x.isZero) : ∃ s, x = signed s .zero := by
  cases x with
  | nan => cases h
  | signed s a => exact ⟨s, by rw [Magnitude.eq_zero_of_isZero h]⟩

/-- A zero adds nothing to what is no zero, finite or not. -/
theorem add_of_isZero (hx : x.isZero) (hy : y.isZero = false) : x + y = y := by
  obtain ⟨s, rfl⟩ := eq_signed_of_isZero hx
  cases y with
  | nan => rfl
  | signed t b =>
      have hb : 0 < b.quanta := Magnitude.quanta_pos_of_isZero hy
      have hz : Magnitude.zero.isInfinite = false := rfl
      change add (signed s .zero) (signed t b) = signed t b
      simp only [add, hz, quanta_zero, Nat.zero_add, Nat.sub_zero, Nat.not_lt_zero, hb, nearest_one,
        Bool.false_eq_true, ↓reduceIte]
      split
      · rfl
      · split
        · rename_i hs
          rw [hs]
        · rfl

theorem isZero_add (hx : x.isZero) (hy : y.isZero) : (x + y).isZero := by
  obtain ⟨s, rfl⟩ := eq_signed_of_isZero hx
  obtain ⟨t, rfl⟩ := eq_signed_of_isZero hy
  cases s <;> cases t <;> decide

/-- Equal, or zeros both. -/
def EqUpToZero (x y : Double) : Prop := x = y ∨ x.isZero ∧ y.isZero

theorem EqUpToZero.add (h : EqUpToZero x y) (z : Double) : EqUpToZero (x + z) (y + z) := by
  rcases h with rfl | ⟨hx, hy⟩
  · exact .inl rfl
  · cases hz : z.isZero with
    | false => exact .inl (by rw [add_of_isZero hx hz, add_of_isZero hy hz])
    | true => exact .inr ⟨isZero_add hx hz, isZero_add hy hz⟩

theorem EqUpToZero.sub (h : EqUpToZero x y) (z : Double) : EqUpToZero (x - z) (y - z) := h.add (-z)

theorem EqUpToZero.isFinite_eq (h : EqUpToZero x y) : x.isFinite = y.isFinite := by
  rcases h with rfl | ⟨hx, hy⟩
  · rfl
  · obtain ⟨s, rfl⟩ := eq_signed_of_isZero hx
    obtain ⟨t, rfl⟩ := eq_signed_of_isZero hy
    rfl

theorem EqUpToZero.sameNumber (h : EqUpToZero x y) (hf : x.isFinite) : x.sameNumber y := by
  rcases h with rfl | ⟨hx, hy⟩
  · cases x with
    | nan => cases hf
    | signed s a => simp [Double.sameNumber]
  · obtain ⟨s, rfl⟩ := eq_signed_of_isZero hx
    obtain ⟨t, rfl⟩ := eq_signed_of_isZero hy
    cases s <;> cases t <;> rfl

theorem eqUpToZero_zero_add (x : Double) : EqUpToZero x (0 + x) := by
  cases hx : x.isZero with
  | false => exact .inl (add_of_isZero rfl hx).symm
  | true => exact .inr ⟨hx, isZero_add rfl hx⟩

/-! ## Signs -/

theorem zero_add_of_isNegative (h : x.isNegative = false) : 0 + x = x := by
  cases hx : x.isZero with
  | false => exact add_of_isZero rfl hx
  | true =>
      obtain ⟨s, rfl⟩ := eq_signed_of_isZero hx
      cases h
      decide

/-- Only a negative zero on the left gives one back. -/
theorem eq_negZero_of_add (h : x + y = -0) : x = -0 := by
  change add x y = signed true .zero at h
  have hnearest {s : Bool} {n : Nat} (hs : signed s (nearest n 1) = signed true .zero) : s = true ∧ n = 0 := by
    injection hs with hs hn
    exact ⟨hs, Magnitude.eq_zero_of_isZero_nearest (by rw [hn]; rfl)⟩
  cases x with
  | nan => cases h
  | signed s a => cases y with
      | nan => cases h
      | signed t b =>
          simp only [add] at h
          split at h
          · split at h
            · cases h
            · exact h
          · split at h
            · rename_i hb
              cases h
              cases hb
            · split at h
              · obtain ⟨rfl, hn⟩ := hnearest h
                rw [Magnitude.eq_zero_of_quanta (m := a) (by omega)]
                rfl
              -- Quanta that differ do not cancel, and those that are the same give a zero without sign.
              · split at h
                · have := (hnearest h).2
                  omega
                · split at h
                  · have := (hnearest h).2
                    omega
                  · cases h

theorem eq_negZero_of_sub (h : x - y = -0) : x = -0 := eq_negZero_of_add h

theorem isNegative_mul (hx : x.isNegative = false) (hy : y.isNegative = false) : (x * y).isNegative = false := by
  cases x with
  | nan => rfl
  | signed s a => cases y with
      | nan => rfl
      | signed t b =>
          cases hx
          cases hy
          change (mul (signed false a) (signed false b)).isNegative = false
          rw [mul]
          split
          · rfl
          · split <;> rfl

theorem isNegative_div (hx : x.isNegative = false) (hy : y.isNegative = false) : (x / y).isNegative = false := by
  cases x with
  | nan => rfl
  | signed s a => cases y with
      | nan => rfl
      | signed t b =>
          cases hx
          cases hy
          change (div (signed false a) (signed false b)).isNegative = false
          rw [div]
          split
          · rfl
          · split
            · rfl
            · split <;> rfl

end Double

end Calculator
