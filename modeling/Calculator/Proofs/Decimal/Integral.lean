import Calculator.Proofs.Double.ResultText

/-!
# Integers

Every integer up to `2 ^ 53` is a magnitude of its own, and rounding keeps the order. So no other integer reads back as
a smaller one, and the shortest decimal of an integer has all of its digits.
-/

namespace Calculator

namespace Magnitude

variable {m : Magnitude} {num den n : Nat}

/-! ## Order -/

theorem rank_le_nearest (hd : 0 < den) (h : den * m.quanta ≤ num) : m.rank ≤ (nearest num den).rank := by
  have hq : quantaAt m.rank ≤ num / den := (Nat.le_div_iff_mul_le hd).mpr (by rwa [Nat.mul_comm])
  have hlt := Nat.lt_of_le_of_lt hq (lt_quantaAt_rankBelow_succ (num / den))
  have hlow : m.rank ≤ rankBelow (num / den) :=
    Nat.le_of_lt_succ (Nat.lt_of_not_le fun hle => Nat.not_le_of_lt hlt (quantaAt_le_iff.mpr hle))
  have hmin {rank : Nat} (h : m.rank ≤ rank) : m.rank ≤ (ofRank rank).rank := Nat.le_min.mpr ⟨h, m.rank_le⟩
  unfold nearest
  dsimp only
  split
  · exact hmin hlow
  · split
    · exact hmin (Nat.le_succ_of_le hlow)
    · exact hmin (Nat.le_add_right_of_le hlow)

/-! ## Integers as magnitudes -/

/-- A significand of `53` bits fits, whatever its exponent, for the ranks go on past infinity here. -/
theorem exists_quantaAt (exponent : Nat) (h : n ≤ 2 ^ (53 : Nat)) : ∃ rank, quantaAt rank = 2 ^ exponent * n := by
  -- While the significand is short of its binade it is doubled, and the exponent goes down.
  induction exponent generalizing n with
  | zero =>
      rcases Nat.lt_or_eq_of_le h with hlt | rfl
      · exact ⟨2 ^ 52 * 0 + n, by rw [quantaAt_of_significand (.inl rfl) hlt, Nat.mul_comm]⟩
      · exact ⟨2 ^ 52 * 1 + 2 ^ 52, quantaAt_of_significand (.inr (Nat.le_refl _)) (by decide)⟩
  | succ exponent ih =>
      by_cases hlow : n < 2 ^ 52
      · obtain ⟨rank, hr⟩ := ih (n := 2 * n) (by omega)
        exact ⟨rank, by rw [hr, Nat.pow_succ, Nat.mul_assoc]⟩
      · rcases Nat.lt_or_eq_of_le h with hlt | rfl
        · exact ⟨2 ^ 52 * (exponent + 1) + n, by rw [quantaAt_of_significand (.inr (by omega)) hlt, Nat.mul_comm]⟩
        · refine ⟨2 ^ 52 * (exponent + 2) + 2 ^ 52, ?_⟩
          rw [quantaAt_of_significand (.inr (Nat.le_refl _)) (by decide), Nat.pow_succ 2 (exponent + 1)]
          omega

theorem quantaPerOne_pos : 0 < quantaPerOne := by
  unfold quantaPerOne
  generalize 1074 = places
  exact Nat.two_pow_pos places

theorem exists_quanta (h : n ≤ 2 ^ (53 : Nat)) :
    ∃ m : Magnitude, m.quanta = quantaPerOne * n ∧ m.isInfinite = false := by
  obtain ⟨rank, hr⟩ : ∃ rank, quantaAt rank = quantaPerOne * n := exists_quantaAt 1074 h
  have hlast : quantaPerOne * 2 ^ (53 : Nat) < quantaAt infiniteRank := by decide +kernel
  have hle : quantaAt rank ≤ quantaPerOne * 2 ^ (53 : Nat) := by
    rw [hr]
    exact Nat.mul_le_mul_left quantaPerOne h
  have hlt : rank < infiniteRank := Nat.lt_of_not_le fun hn =>
    Nat.not_le_of_lt (Nat.lt_of_le_of_lt hle hlast) (quantaAt_le_iff.mpr hn)
  exact ⟨⟨rank, Nat.le_of_lt hlt⟩, hr, beq_eq_false_iff_ne.mpr (Nat.ne_of_lt hlt)⟩

/-- An integer over a power of two, down to the quanta. -/
theorem exists_dyadic {k : Nat} (hk : k ≤ 1074) (h : n ≤ 2 ^ (53 : Nat)) :
    ∃ m : Magnitude, 2 ^ k * m.quanta = quantaPerOne * n ∧ m.isInfinite = false := by
  have hrank (places : Nat) (hk : k ≤ places) : ∃ rank, 2 ^ k * quantaAt rank = 2 ^ places * n := by
    obtain ⟨rank, hr⟩ := exists_quantaAt (places - k) h
    exact ⟨rank, by rw [hr, ← Nat.mul_assoc, ← Nat.pow_add, Nat.add_sub_cancel' hk]⟩
  obtain ⟨rank, hr⟩ : ∃ rank, 2 ^ k * quantaAt rank = quantaPerOne * n := hrank 1074 hk
  obtain ⟨whole, hw, hf⟩ := exists_quanta h
  have hle : rank ≤ whole.rank := by
    refine quantaAt_le_iff.mp ?_
    change quantaAt rank ≤ whole.quanta
    rw [hw, ← hr]
    exact Nat.le_mul_of_pos_left _ (Nat.two_pow_pos k)
  have hne : rank ≠ infiniteRank := by
    rintro rfl
    exact Bool.false_ne_true (hf.symm.trans (beq_iff_eq.mpr (Nat.le_antisymm whole.rank_le hle)))
  exact ⟨⟨rank, Nat.le_trans hle whole.rank_le⟩, hr, beq_eq_false_iff_ne.mpr hne⟩

theorem quanta_ofDecimal (h : n ≤ 2 ^ (53 : Nat)) :
    (ofDecimal ⟨n, 0⟩).quanta = quantaPerOne * n ∧ (ofDecimal ⟨n, 0⟩).isInfinite = false := by
  obtain ⟨m, hm, hf⟩ := exists_quanta h
  rw [Double.ofDecimal_numeral hm]
  exact ⟨hm, hf⟩

end Magnitude

open Magnitude (quantaPerOne)

namespace Decimal

variable {m : Magnitude} {n k : Nat}

/-! ## Decimals of integers -/

/-- A smaller integer is not read from another one. -/
theorem eq_of_ofDecimal (hm : m.quanta = quantaPerOne * n) (hn : n < 2 ^ (53 : Nat))
    (h : Magnitude.ofDecimal ⟨k, 0⟩ = m) : k = n := by
  rcases Nat.lt_or_ge (2 ^ 53) k with hk | hk
  · obtain ⟨limit, hl, _⟩ := Magnitude.exists_quanta (Nat.le_refl (2 ^ 53))
    have hle : limit.rank ≤ m.rank := by
      rw [← h, Magnitude.ofDecimal]
      refine Magnitude.rank_le_nearest (Nat.pow_pos (by decide)) ?_
      rw [Nat.pow_zero, Nat.one_mul, hl]
      exact Nat.mul_le_mul_left quantaPerOne (Nat.le_of_lt hk)
    have hq : limit.quanta ≤ m.quanta := Magnitude.quantaAt_le_iff.mpr hle
    rw [hl, hm] at hq
    exact absurd (Nat.le_of_mul_le_mul_left hq Magnitude.quantaPerOne_pos) (Nat.not_le_of_lt hn)
  · have hq := (Magnitude.quanta_ofDecimal hk).1
    rw [h, hm] at hq
    exact (Nat.eq_of_mul_eq_mul_left Magnitude.quantaPerOne_pos hq).symm

theorem exists_findSome?_powers (hm : m.quanta = quantaPerOne * n) (zeros places : Nat) :
    ∃ d : Decimal, (powers zeros places).findSome? (onGrid? m) = some d ∧ d.places = 0 := by
  have hbeside : IsBeside m ⟨10 ^ 0, 0⟩ n := by
    left
    dsimp only
    rw [hm, Nat.pow_zero, Nat.one_mul, Nat.mul_one, Nat.mul_div_cancel_left _ Magnitude.quantaPerOne_pos]
  have hgrid : onGrid? m ⟨10 ^ 0, 0⟩ ≠ none := by
    refine onGrid?_ne_none hbeside ?_
    rw [scale, Nat.pow_zero, Nat.one_mul]
    exact Double.ofDecimal_numeral hm
  rw [powers, List.findSome?_append]
  cases h : ((List.range (zeros + 1)).reverse.map fun k => (⟨10 ^ k, 0⟩ : Decimal)).findSome? (onGrid? m) with
  | none => exact absurd (List.findSome?_eq_none_iff.mp h _ (List.mem_map.mpr ⟨0, by simp, rfl⟩)) hgrid
  | some d => exact ⟨d, rfl, places_of_powerOfTen h⟩

/-- The search stops at a power of ten that is no fraction, and there only the integer itself reads back. -/
theorem shortest_of_lt (hm : m.quanta = quantaPerOne * n) (hn : n < 2 ^ (53 : Nat)) : shortest m = ⟨n, 0⟩ := by
  have hread := ofDecimal_shortest m
  unfold shortest at hread ⊢
  dsimp only at hread ⊢
  generalize (Nat.toDigits 10 (m.quanta / quantaPerOne)).length = zeros at hread ⊢
  obtain ⟨⟨k, places⟩, hd, hp⟩ := exists_findSome?_powers hm zeros 1074
  dsimp only at hp
  subst hp
  rw [hd, Option.getD_some] at hread ⊢
  rw [eq_of_ofDecimal hm hn hread]

/-- The integer above the limit reads back as the limit too, but is no nearer. -/
theorem shortest_of_limit : shortest (Magnitude.ofDecimal ⟨2 ^ (53 : Nat), 0⟩) = ⟨2 ^ (53 : Nat), 0⟩ := by decide +kernel

theorem shortest_of_integer (hm : m.quanta = quantaPerOne * n) (hn : n ≤ 2 ^ (53 : Nat)) : shortest m = ⟨n, 0⟩ := by
  rcases Nat.lt_or_eq_of_le hn with hlt | rfl
  · exact shortest_of_lt hm hlt
  · rw [← Double.ofDecimal_numeral hm]
    exact shortest_of_limit

end Decimal

end Calculator
