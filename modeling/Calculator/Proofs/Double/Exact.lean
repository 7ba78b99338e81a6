import Calculator.Proofs.Decimal.Integral

/-!
# Exact integers

Sums and products by the quanta of their operands. Where the operands are integers that a double holds, the result is
the double nearest to the exact integer, and up to `2 ^ 53` that is the integer itself.
-/

namespace Calculator.Double

open Magnitude (nearest nearest_one quantaPerOne quantaPerOne_pos)

variable {x y : Double} {s : Bool} {m : Magnitude} {a b z : Int} {n k : Nat}

/-- How many quanta a number is. -/
def quanta : Double → Int
  | nan => 0
  | signed s m => if s then -(m.quanta : Int) else m.quanta

/-- The double nearest to a number of quanta, where a zero has no sign. -/
def ofQuanta (quanta : Int) : Double := signed (quanta < 0) (nearest quanta.natAbs 1)

/-- The double nearest to an integer. -/
def ofInt (z : Int) : Double := ofQuanta (quantaPerOne * z)

/-! ## Sums -/

theorem isFinite_signed_iff : (signed s m).isFinite ↔ m.isInfinite = false := by simp

theorem eq_signed (h : x.isFinite) : ∃ s m, x = signed s m ∧ m.isInfinite = false := by
  cases x with
  | nan => cases h
  | signed s m => exact ⟨s, m, rfl, isFinite_signed_iff.mp h⟩

theorem pos_of_signed (h : signed true m ≠ -0) : 0 < m.quanta := Magnitude.quanta_pos_of_isZero (isZero_of_ne_negZero h)

theorem ofQuanta_natCast (n : Nat) : ofQuanta n = signed false (nearest n 1) := by
  simp [ofQuanta]

theorem ofQuanta_neg_natCast (h : 0 < n) : ofQuanta (-(n : Int)) = signed true (nearest n 1) := by
  simp [ofQuanta, h]

theorem ofQuanta_quanta (h : signed s m ≠ -0) : ofQuanta (signed s m).quanta = signed s m := by
  cases s with
  | false => exact (ofQuanta_natCast _).trans (by rw [nearest_one])
  | true => exact (ofQuanta_neg_natCast (pos_of_signed h)).trans (by rw [nearest_one])

theorem ofQuanta_sub (n k : Nat) :
    ofQuanta (n - k) =
      if k < n then signed false (nearest (n - k) 1) else if n < k then signed true (nearest (k - n) 1) else zero := by
  split
  · rw [← ofQuanta_natCast]
    congr 1
    omega
  · split
    · rw [← ofQuanta_neg_natCast (by omega)]
      congr 1
      omega
    · have hzero : (n : Int) - k = (0 : Nat) := by omega
      rw [hzero, ofQuanta_natCast]
      exact congrArg (signed false) (nearest_one .zero)

/-- A sum is rounded once. -/
theorem add_eq (hx : x.isFinite) (hy : y.isFinite) (h : x ≠ -0) : x + y = ofQuanta (x.quanta + y.quanta) := by
  obtain ⟨s, a, rfl, ha⟩ := eq_signed hx
  obtain ⟨t, b, rfl, hb⟩ := eq_signed hy
  change add (signed s a) (signed t b) = _
  simp only [add, ha, hb, Bool.false_eq_true, ↓reduceIte]
  cases s with
  | false => cases t with
      | false => exact (ofQuanta_natCast _).symm
      | true => exact (ofQuanta_sub _ _).symm
  | true => cases t with
      | false =>
          have hsum : (signed true a).quanta + (signed false b).quanta = (b.quanta : Int) - a.quanta := by
            simp only [quanta, ↓reduceIte, Bool.false_eq_true]
            omega
          rw [hsum, ofQuanta_sub]
          simp only [Bool.true_eq_false, ↓reduceIte]
          rcases Nat.lt_trichotomy a.quanta b.quanta with hlt | heq | hlt
          · rw [if_neg (Nat.lt_asymm hlt), if_pos hlt, if_pos hlt]
          · simp only [heq, Nat.lt_irrefl, ↓reduceIte]
          · rw [if_pos hlt, if_neg (Nat.lt_asymm hlt), if_pos hlt]
      | true =>
          have hsum : (signed true a).quanta + (signed true b).quanta = -((a.quanta + b.quanta : Nat) : Int) := by
            simp only [quanta, ↓reduceIte]
            omega
          rw [hsum, ofQuanta_neg_natCast (Nat.add_pos_left (pos_of_signed h) _)]
          rfl

theorem quanta_neg (x : Double) : (-x).quanta = -x.quanta := by
  cases x with
  | nan => rfl
  | signed s m =>
      change (signed (!s) m).quanta = _
      cases s <;> simp [quanta]

theorem sub_eq (hx : x.isFinite) (hy : y.isFinite) (h : x ≠ -0) : x - y = ofQuanta (x.quanta - y.quanta) := by
  rw [Int.sub_eq_add_neg, ← quanta_neg]
  exact add_eq hx ((isFinite_neg).trans hy) h

/-! ## Whole quanta -/

theorem quanta_ofQuanta {q : Int} (h : (nearest q.natAbs 1).quanta = q.natAbs) : (ofQuanta q).quanta = q := by
  simp only [ofQuanta, quanta, h, decide_eq_true_eq]
  split <;> omega

theorem ofQuanta_ne_negZero (q : Int) : ofQuanta q ≠ -0 := by
  intro h
  injection h with hs hm
  have hq : q.natAbs = 0 := Magnitude.eq_zero_of_isZero_nearest (by rw [hm]; rfl)
  have hneg : q < 0 := of_decide_eq_true hs
  omega

/-! ## Integers -/

theorem quanta_ofInt (h : z.natAbs ≤ 2 ^ (53 : Nat)) : (ofInt z).quanta = quantaPerOne * z ∧ (ofInt z).isFinite := by
  obtain ⟨m, hm, hf⟩ := Magnitude.exists_quanta h
  have hnearest : nearest (quantaPerOne * z).natAbs 1 = m := by
    rw [Int.natAbs_mul, Int.natAbs_natCast, ← hm, nearest_one]
  constructor
  · refine quanta_ofQuanta ?_
    rw [hnearest, hm, Int.natAbs_mul, Int.natAbs_natCast]
  · rw [ofInt, ofQuanta, hnearest]
    exact isFinite_signed_iff.mpr hf

theorem isFinite_ofInt_natCast (h : n ≤ 2 ^ (53 : Nat)) : (ofInt n).isFinite := (quanta_ofInt (z := n) h).2

theorem ofInt_natCast (n : Nat) : ofInt n = signed false (nearest (quantaPerOne * n) 1) := by
  rw [ofInt, ← Int.natCast_mul, ofQuanta_natCast]

theorem ofInt_neg_natCast (h : 0 < n) : ofInt (-(n : Int)) = signed true (nearest (quantaPerOne * n) 1) := by
  rw [ofInt, Int.mul_neg, ← Int.natCast_mul, ofQuanta_neg_natCast (Nat.mul_pos quantaPerOne_pos h)]

theorem ofDecimal_eq_ofInt (n : Nat) : ofDecimal ⟨n, 0⟩ = ofInt n := (ofInt_natCast n).symm

theorem ofInt_add (ha : a.natAbs ≤ 2 ^ (53 : Nat)) (hb : b.natAbs ≤ 2 ^ (53 : Nat)) :
    ofInt a + ofInt b = ofInt (a + b) := by
  obtain ⟨hqa, hfa⟩ := quanta_ofInt ha
  obtain ⟨hqb, hfb⟩ := quanta_ofInt hb
  rw [add_eq hfa hfb (ofQuanta_ne_negZero _), hqa, hqb, ← Int.mul_add, ofInt]

theorem ofInt_sub (ha : a.natAbs ≤ 2 ^ (53 : Nat)) (hb : b.natAbs ≤ 2 ^ (53 : Nat)) :
    ofInt a - ofInt b = ofInt (a - b) := by
  obtain ⟨hqa, hfa⟩ := quanta_ofInt ha
  obtain ⟨hqb, hfb⟩ := quanta_ofInt hb
  rw [sub_eq hfa hfb (ofQuanta_ne_negZero _), hqa, hqb, ← Int.mul_sub, ofInt]

theorem ofInt_mul (hn : n ≤ 2 ^ (53 : Nat)) (hk : k ≤ 2 ^ (53 : Nat)) :
    ofInt n * ofInt k = ofInt (n * k : Nat) := by
  obtain ⟨a, ha, hfa⟩ := Magnitude.exists_quanta hn
  obtain ⟨b, hb, hfb⟩ := Magnitude.exists_quanta hk
  have hproduct : nearest (a.quanta * b.quanta) quantaPerOne = nearest (quantaPerOne * (n * k)) 1 := by
    have hscale := Magnitude.nearest_mul_left quantaPerOne_pos (quantaPerOne * (n * k)) 1
    rw [Nat.mul_one] at hscale
    rw [← hscale, ha, hb, Nat.mul_assoc, Nat.mul_left_comm n]
  rw [ofInt_natCast, ofInt_natCast, ofInt_natCast, ← ha, ← hb, nearest_one, nearest_one, ← hproduct]
  change mul (signed false a) (signed false b) = _
  simp [mul, hfa, hfb]

end Calculator.Double
