import Calculator.Proofs.Double.Text

/-!
# Decimals without superfluous places

The shortest decimal of a magnitude has no zero in its last place. With one it would stand on the next coarser grid,
beside the exact value there too, and the search would have stopped at that grid before.
-/

namespace Calculator

theorem Magnitude.nearest_mul_left {c : Nat} (h : 0 < c) (num den : Nat) :
    nearest (c * num) (c * den) = nearest num den := by
  have hlt (a b : Nat) : c * a < c * b ↔ a < b := Nat.mul_lt_mul_left h
  simp only [nearest, Nat.mul_div_mul_left num den h, Nat.mul_assoc, Nat.mul_left_comm 2 c num, hlt]

namespace Decimal

open Magnitude (quantaPerOne)

/-- There are no places, or the last one is no zero. -/
def IsReduced (d : Decimal) : Prop := d.places = 0 ∨ d.coefficient % 10 ≠ 0

variable {m : Magnitude}

theorem ofDecimal_shift (n k : Nat) : Magnitude.ofDecimal ⟨10 * n, k + 1⟩ = Magnitude.ofDecimal ⟨n, k⟩ := by
  unfold Magnitude.ofDecimal
  rw [Nat.pow_succ', Nat.mul_left_comm]
  exact Magnitude.nearest_mul_left (by decide) _ _

/-! ## One grid -/

/-- The multiples of a power of ten that are tried, by their factors. -/
def IsBeside (m : Magnitude) (power : Decimal) (n : Nat) : Prop :=
  n = 10 ^ power.places * m.quanta / (quantaPerOne * power.coefficient) ∨
    n = 10 ^ power.places * m.quanta / (quantaPerOne * power.coefficient) + 1

theorem isBeside_of_onGrid? {power d : Decimal} (h : onGrid? m power = some d) :
    ∃ n, d = scale n power ∧ IsBeside m power n := by
  unfold onGrid? at h
  dsimp only at h
  split at h
  · rw [Option.some.injEq] at h
    subst h
    split
    · exact ⟨_, rfl, .inl rfl⟩
    · exact ⟨_, rfl, .inr rfl⟩
  · rw [Option.some.injEq] at h
    exact ⟨_, h.symm, .inl rfl⟩
  · rw [Option.some.injEq] at h
    exact ⟨_, h.symm, .inr rfl⟩
  · exact absurd h.symm (Option.some_ne_none d)

theorem onGrid?_ne_none {power : Decimal} {n : Nat} (hn : IsBeside m power n)
    (h : Magnitude.ofDecimal (scale n power) = m) : onGrid? m power ≠ none := by
  intro hnone
  unfold onGrid? at hnone
  dsimp only at hnone
  split at hnone
  · exact Option.some_ne_none _ hnone
  · exact Option.some_ne_none _ hnone
  · exact Option.some_ne_none _ hnone
  · rename_i hbelow habove
    rcases hn with rfl | rfl
    · exact of_decide_eq_false hbelow h
    · exact of_decide_eq_false habove h

/-! ## A grid and the next one -/

/-- What stands beside a value and ends in a zero stands beside it on the coarser grid too. -/
theorem IsBeside.of_shift {k n : Nat} (h : IsBeside m ⟨1, k + 1⟩ (10 * n)) : IsBeside m ⟨1, k⟩ n := by
  unfold IsBeside at h ⊢
  dsimp only at h ⊢
  generalize quantaPerOne * 1 = den at h ⊢
  have hfloor : 10 ^ (k + 1) * m.quanta / den / 10 = 10 ^ k * m.quanta / den := by
    rw [Nat.div_div_eq_div_mul, Nat.mul_comm den, Nat.pow_succ', Nat.mul_assoc]
    exact Nat.mul_div_mul_left _ _ (by decide)
  generalize 10 ^ (k + 1) * m.quanta / den = fine at h hfloor
  generalize 10 ^ k * m.quanta / den = coarse at hfloor ⊢
  omega

theorem isReduced_of_onGrid? {k : Nat} {d : Decimal} (h : onGrid? m ⟨1, k + 1⟩ = some d)
    (hprev : onGrid? m ⟨1, k⟩ = none) : d.IsReduced := by
  right
  intro hz
  obtain ⟨n, hd, hn⟩ := isBeside_of_onGrid? h
  have hm := ofDecimal_of_onGrid? h
  subst hd
  dsimp only [scale] at hz hm
  rw [Nat.one_mul] at hz hm
  obtain ⟨n, rfl⟩ := Nat.dvd_of_mod_eq_zero hz
  rw [ofDecimal_shift] at hm
  refine onGrid?_ne_none hn.of_shift ?_ hprev
  rw [scale, Nat.one_mul]
  exact hm

/-! ## The search -/

/-- The finest grid has the exact value on it. -/
theorem onGrid?_finest (m : Magnitude) : onGrid? m ⟨1, 1074⟩ ≠ none := by
  have hbeside : IsBeside m ⟨1, 1074⟩ (5 ^ (1074 : Nat) * m.quanta) := by
    left
    dsimp only [quantaPerOne]
    generalize 1074 = places
    rw [Nat.mul_one, show (10 : Nat) = 2 * 5 from rfl, Nat.mul_pow, Nat.mul_assoc]
    exact (Nat.mul_div_cancel_left _ (Nat.two_pow_pos places)).symm
  refine onGrid?_ne_none hbeside ?_
  rw [scale, Nat.one_mul]
  exact ofDecimal_exact m

theorem places_of_powerOfTen {zeros : Nat} {d : Decimal}
    (h : ((List.range (zeros + 1)).reverse.map fun k => (⟨10 ^ k, 0⟩ : Decimal)).findSome? (onGrid? m) = some d) :
    d.places = 0 := by
  obtain ⟨power, hp, hd⟩ := List.exists_of_findSome?_eq_some h
  obtain ⟨k, _, rfl⟩ := List.mem_map.mp hp
  obtain ⟨n, rfl, _⟩ := isBeside_of_onGrid? hd
  rfl

theorem mem_of_range_eq_append {places k : Nat} {before after : List Nat}
    (h : List.range places = before ++ (k + 1) :: after) : k ∈ before := by
  have hsorted : (before ++ (k + 1) :: after).Pairwise (· < ·) := h ▸ List.pairwise_lt_range
  have hlt : k + 1 < places := List.mem_range.mp (h ▸ by simp)
  have hmem : k ∈ before ++ (k + 1) :: after := h ▸ List.mem_range.mpr (Nat.lt_of_succ_lt hlt)
  rcases List.mem_append.mp hmem with hk | hk
  · exact hk
  · rcases List.mem_cons.mp hk with hk | hk
    · omega
    · have := List.rel_of_pairwise_cons (List.pairwise_append.mp hsorted).2.1 hk
      omega

theorem isReduced_of_powers {zeros places : Nat} {d : Decimal}
    (h : (powers zeros places).findSome? (onGrid? m) = some d) : d.IsReduced := by
  rw [powers, List.findSome?_append, Option.or_eq_some_iff] at h
  rcases h with h | ⟨hnone, h⟩
  · exact .inl (places_of_powerOfTen h)
  · rw [List.findSome?_map] at h
    obtain ⟨before, k, after, hsplit, hd, hbefore⟩ := List.findSome?_eq_some_iff.mp h
    -- By rewriting, for the kernel would unfold the search to see through a composition.
    rw [Function.comp_apply] at hd
    refine isReduced_of_onGrid? hd ?_
    cases k with
    | zero =>
        have hmem : (⟨1, 0⟩ : Decimal) ∈ (List.range (zeros + 1)).reverse.map fun k => ⟨10 ^ k, 0⟩ :=
          List.mem_map.mpr ⟨0, by simp, rfl⟩
        exact List.findSome?_eq_none_iff.mp hnone _ hmem
    | succ k =>
        have hprev := hbefore k (mem_of_range_eq_append hsplit)
        rwa [Function.comp_apply] at hprev

theorem mem_powers (zeros k : Nat) : ⟨1, k + 1⟩ ∈ powers zeros (k + 1) :=
  List.mem_append_right _ (List.mem_map.mpr ⟨k, List.mem_range.mpr (Nat.lt_succ_self k), rfl⟩)

theorem isReduced_shortest (m : Magnitude) : (shortest m).IsReduced := by
  unfold shortest
  dsimp only
  generalize (Nat.toDigits 10 (m.quanta / quantaPerOne)).length = zeros
  cases h : (powers zeros 1074).findSome? (onGrid? m) with
  | none => exact absurd (List.findSome?_eq_none_iff.mp h _ (mem_powers zeros 1073)) (onGrid?_finest m)
  | some d => exact isReduced_of_powers h

end Decimal

end Calculator
