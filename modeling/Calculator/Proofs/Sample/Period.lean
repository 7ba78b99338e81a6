import Calculator.Decimal.Basic
import Calculator.Sample.Generator
import Mathlib.Data.UInt
import Mathlib.Dynamics.PeriodicPts.Lemmas
import Mathlib.NumberTheory.Multiplicity
import Mathlib.RingTheory.Coprime.Lemmas
import Mathlib.SetTheory.Cardinal.Finite
import Mathlib.Tactic.LinearCombination

/-!
# The period of the generator

From every seed the generator goes through all of its states before it comes back to the seed. After `n` draws a state has
moved by a multiple of the sum of the first `n` powers of the multiplier, and a power of two divides this sum just when it
divides `n`.
-/

namespace Calculator

namespace Generator

open Finset (range)

/-- What `next` multiplies the state by. -/
def multiplier : ℤ := 6364136223846793005

variable {g h : Generator} {a : ℤ} {k n : ℕ}

/-! ## Sums of powers -/

/-- The sum has as many factors of two as the number of its terms. -/
theorem two_pow_dvd_geomSum (ha : 4 ∣ a - 1) (hne : a ≠ 1) : (2 : ℤ) ^ k ∣ ∑ i ∈ range n, a ^ i ↔ (2 : ℤ) ^ k ∣ n := by
  have hodd : ¬2 ∣ a := by omega
  have hlift := Int.two_pow_sub_pow' n ha hodd
  rw [one_pow, ← geom_sum_mul, emultiplicity_mul Int.prime_two, add_comm] at hlift
  have hfinite : emultiplicity 2 (a - 1) ≠ ⊤ :=
    finiteMultiplicity_iff_emultiplicity_ne_top.mp (Int.finiteMultiplicity_iff.mpr ⟨by decide, sub_ne_zero.mpr hne⟩)
  rw [pow_dvd_iff_le_emultiplicity, pow_dvd_iff_le_emultiplicity, (WithTop.add_left_inj hfinite).mp hlift]

/-! ## States as numbers -/

theorem eq_of_state_modEq (hs : (g.state.toNat : ℤ) ≡ h.state.toNat [ZMOD 2 ^ 64]) : g = h := by
  have hg : (g.state.toNat : ℤ) < 2 ^ 64 := by exact_mod_cast g.state.toNat_lt
  have hh : (h.state.toNat : ℤ) < 2 ^ 64 := by exact_mod_cast h.state.toNat_lt
  rw [Int.ModEq, Int.emod_eq_of_lt (Int.natCast_nonneg _) hg, Int.emod_eq_of_lt (Int.natCast_nonneg _) hh] at hs
  exact congrArg mk (UInt64.toNat_inj.mp (Int.ofNat_inj.mp hs))

theorem state_next (g : Generator) : (g.next.state.toNat : ℤ) ≡ multiplier * g.state.toNat + 1 [ZMOD 2 ^ 64] := by
  have hstate : g.next.state.toNat = (g.state.toNat * 6364136223846793005 % 2 ^ 64 + 1) % 2 ^ 64 := by
    rw [next, UInt64.toNat_add, UInt64.toNat_mul]
    rfl
  rw [hstate, Int.ModEq, multiplier]
  push_cast
  omega

theorem state_iterate (n : ℕ) (g : Generator) :
    ((next^[n] g).state.toNat : ℤ) ≡ multiplier ^ n * g.state.toNat + ∑ i ∈ range n, multiplier ^ i [ZMOD 2 ^ 64] := by
  induction n with
  | zero => simp
  | succ n ih =>
      have hstep := (state_next (next^[n] g)).trans ((ih.mul_left multiplier).add_right 1)
      rw [Function.iterate_succ_apply', geom_sum_succ]
      convert hstep using 1
      ring

/-! ## The period -/

/-- The factor beside the sum of powers is odd, so only the sum counts. -/
theorem isPeriodicPt_iff : Function.IsPeriodicPt next n g ↔ 2 ^ 64 ∣ n := by
  have hmoved : multiplier ^ n * g.state.toNat + ∑ i ∈ range n, multiplier ^ i - g.state.toNat =
      (∑ i ∈ range n, multiplier ^ i) * ((multiplier - 1) * g.state.toNat + 1) := by
    linear_combination -(g.state.toNat : ℤ) * geom_sum_mul multiplier n
  have hcoprime : IsCoprime ((2 : ℤ) ^ 64) ((multiplier - 1) * g.state.toNat + 1) := by
    obtain ⟨c, hc⟩ : 2 ∣ multiplier - 1 := by decide
    refine IsCoprime.pow_left ⟨-(c * g.state.toNat), 1, ?_⟩
    rw [hc]
    ring
  calc Function.IsPeriodicPt next n g
    _ ↔ ((next^[n] g).state.toNat : ℤ) ≡ g.state.toNat [ZMOD 2 ^ 64] :=
        ⟨fun h => by rw [h.eq], eq_of_state_modEq⟩
    _ ↔ (g.state.toNat : ℤ) ≡ multiplier ^ n * g.state.toNat + ∑ i ∈ range n, multiplier ^ i [ZMOD 2 ^ 64] :=
        ⟨fun h => h.symm.trans (state_iterate n g), fun h => (state_iterate n g).trans h.symm⟩
    _ ↔ (2 : ℤ) ^ 64 ∣ ∑ i ∈ range n, multiplier ^ i := by
        rw [Int.modEq_iff_dvd, hmoved]
        exact ⟨hcoprime.dvd_of_dvd_mul_right, fun h => h.mul_right _⟩
    _ ↔ (2 : ℤ) ^ 64 ∣ n := two_pow_dvd_geomSum (by decide) (by decide)
    _ ↔ 2 ^ 64 ∣ n := by
        exact_mod_cast Iff.rfl

theorem minimalPeriod_eq (g : Generator) : Function.minimalPeriod next g = 2 ^ 64 :=
  Nat.dvd_antisymm (Function.IsPeriodicPt.minimalPeriod_dvd (isPeriodicPt_iff.mpr dvd_rfl))
    (isPeriodicPt_iff.mp (Function.isPeriodicPt_minimalPeriod next g))

theorem injective_next : Function.Injective next := by
  obtain ⟨n, hn⟩ : ∃ n, n + 1 = 2 ^ 64 := ⟨2 ^ 64 - 1, by norm_num⟩
  refine Function.LeftInverse.injective (g := next^[n]) fun g => ?_
  rw [← Function.iterate_succ_apply, Nat.succ_eq_add_one, hn]
  exact isPeriodicPt_iff.mpr dvd_rfl

theorem card_eq : Nat.card Generator = 2 ^ 64 := by
  have hstates : Generator ≃ Fin UInt64.size :=
    ⟨fun g => g.state.toFin, fun i => ⟨UInt64.ofFin i⟩, fun _ => rfl, fun _ => rfl⟩
  rw [Nat.card_congr hstates, Nat.card_eq_fintype_card, Fintype.card_fin]
  rfl

/-- There are no more states than the generator goes through, so it misses none. -/
theorem existsUnique_iterate (g h : Generator) : ∃! n, n < 2 ^ 64 ∧ next^[n] g = h := by
  have : Finite Generator := Nat.finite_of_card_ne_zero (by rw [card_eq]; norm_num)
  have hinj : Function.Injective fun n : Fin (Function.minimalPeriod next g) => next^[n] g := fun m n hmn =>
    Fin.ext (Function.iterate_injOn_Iio_minimalPeriod m.isLt n.isLt hmn)
  have hbij := hinj.bijective_of_nat_card_le (by rw [Nat.card_fin, card_eq, minimalPeriod_eq])
  obtain ⟨n, hn, hunique⟩ := hbij.existsUnique h
  rw [← minimalPeriod_eq g]
  exact ⟨n, ⟨n.isLt, hn⟩, fun m hm => congrArg Fin.val (hunique ⟨m, hm.1⟩ hm.2)⟩

end Generator

/-- From every seed the generator comes back to the seed after `2 ^ 64` draws and not before. On the way it has every
state just once, and no two states are followed by the same one. -/
theorem next_visits_all_states :
    Function.Injective Generator.next ∧
      ∀ seed : Generator,
        Function.minimalPeriod Generator.next seed = 2 ^ 64 ∧
        ∀ g, ∃! n, n < 2 ^ 64 ∧ Generator.next^[n] seed = g :=
  ⟨Generator.injective_next, fun seed => ⟨seed.minimalPeriod_eq, seed.existsUnique_iterate⟩⟩

end Calculator
