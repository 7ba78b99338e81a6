import Calculator.Proofs.Chain.Precedence
import Calculator.Proofs.Double.Height

/-!
# Heights of chains

What a pass works out is at most as high as the numbers that go into it are together, each counted by its reach because it
may divide. So reduction overflows only where the reaches of all numbers add up to the height of infinity.
-/

namespace Calculator

open Magnitude (heightLimit)

variable {op : Operator} {left right value head : Double} {links : List (Operator × Double)} {chain next : Chain}

namespace Operator

theorem height_compute_of_additive (ht : op.tier = .additive) (left right : Double) :
    (op.compute left right).height ≤ left.height + right.height := by
  cases op with
  | plus => exact Double.height_add left right
  | minus => exact Double.height_sub left right
  | times => cases ht
  | divide => cases ht

theorem height_compute (left : Double) (hz : ¬(op = divide ∧ right.isZero)) :
    (op.compute left right).height ≤ left.height + right.reach := by
  have hright := right.height_le_reach
  cases op with
  | plus => exact Nat.le_trans (Double.height_add left right) (Nat.add_le_add_left hright _)
  | minus => exact Nat.le_trans (Double.height_sub left right) (Nat.add_le_add_left hright _)
  | times => exact Nat.le_trans (Double.height_mul left right) (Nat.add_le_add_left hright _)
  | divide => exact Double.height_div left (by simpa using hz)

/-- A value that is checked away is as high as infinity. -/
theorem height_of_apply_outOfRange (h : op.apply left right = .error .outOfRange) :
    ¬(op = divide ∧ right.isZero) ∧ (op.compute left right).height = heightLimit := by
  rw [apply_eq] at h
  split at h
  · cases h
  · rename_i hz
    split at h
    · cases h
    · rename_i hf
      exact ⟨hz, Double.height_of_not_isFinite hf⟩

theorem not_isZero_of_apply (h : op.apply left right = .ok value) : ¬(op = divide ∧ right.isZero) := by
  intro hz
  rw [apply_eq, if_pos hz] at h
  cases h

end Operator

namespace Chain

def sumOver (f : Double → Nat) : List (Operator × Double) → Nat
  | [] => 0
  | (_, right) :: links => f right + sumOver f links

def height (chain : Chain) : Nat := chain.head.height + sumOver Double.height chain.links

def reach (chain : Chain) : Nat := chain.head.reach + sumOver Double.reach chain.links

theorem sumOver_le {f : Double → Nat} {bound : Nat} (h : ∀ link ∈ links, f link.2 ≤ bound) :
    sumOver f links ≤ bound * links.length := by
  induction links with
  | nil => exact Nat.le_refl _
  | cons link links ih =>
      obtain ⟨op, right⟩ := link
      obtain ⟨hlink, hrest⟩ := List.forall_mem_cons.mp h
      have hright : f right ≤ bound := hlink
      have hle := ih hrest
      rw [sumOver, List.length_cons, Nat.mul_succ]
      omega

/-! ## The multiplicative pass -/

-- The number on the left is worked out by then, so its own height counts, and of those ahead the reach.
theorem height_collapseFrom {tier : Tier} (h : collapseFrom tier left links = .ok next) :
    next.height ≤ left.height + sumOver Double.reach links := by
  induction links generalizing left next with
  | nil =>
      cases h
      exact Nat.le_refl _
  | cons link links ih =>
      obtain ⟨op, right⟩ := link
      rw [collapseFrom] at h
      rw [sumOver]
      split at h
      · obtain ⟨value, ha, h⟩ := Outcome.bind_eq_ok.mp h
        have hvalue := Operator.height_compute left (Operator.not_isZero_of_apply ha)
        rw [← (Operator.apply_eq_ok.mp ha).1] at hvalue
        have hrest := ih h
        omega
      · obtain ⟨rest, hc, h⟩ := Outcome.bind_eq_ok.mp h
        cases h
        have hrest := ih hc
        have hright := right.height_le_reach
        simp only [height, sumOver] at hrest ⊢
        omega

theorem limit_le_of_collapseFrom {tier : Tier} (h : collapseFrom tier left links = .error .outOfRange) :
    heightLimit ≤ left.height + sumOver Double.reach links := by
  induction links generalizing left with
  | nil => cases h
  | cons link links ih =>
      obtain ⟨op, right⟩ := link
      rw [collapseFrom] at h
      rw [sumOver]
      split at h
      · rcases Outcome.bind_eq_error.mp h with h | ⟨value, ha, h⟩
        · obtain ⟨hz, hlimit⟩ := Operator.height_of_apply_outOfRange h
          have hvalue := Operator.height_compute left hz
          omega
        · have hvalue := Operator.height_compute left (Operator.not_isZero_of_apply ha)
          rw [← (Operator.apply_eq_ok.mp ha).1] at hvalue
          have hrest := ih h
          omega
      · rcases Outcome.bind_eq_error.mp h with h | ⟨rest, _, h⟩
        · have hrest := ih h
          have hright := right.height_le_reach
          omega
        · cases h

/-! ## The additive pass -/

theorem limit_le_of_fold (ht : ∀ link ∈ links, link.1.tier = .additive)
    (h : fold ⟨head, links⟩ = .error .outOfRange) : heightLimit ≤ height ⟨head, links⟩ := by
  induction links generalizing head with
  | nil => cases h
  | cons link links ih =>
      obtain ⟨op, right⟩ := link
      obtain ⟨hop, ht⟩ := List.forall_mem_cons.mp ht
      have hvalue : (op.compute head right).height ≤ head.height + right.height :=
        Operator.height_compute_of_additive hop head right
      rw [fold_cons] at h
      simp only [height, sumOver]
      rcases Outcome.bind_eq_error.mp h with h | ⟨value, ha, h⟩
      · have hlimit := (Operator.height_of_apply_outOfRange h).2
        omega
      · rw [← (Operator.apply_eq_ok.mp ha).1] at hvalue
        have hrest := ih ht h
        simp only [height] at hrest
        omega

theorem limit_le_reach (h : reduce chain.toTokens = .error .outOfRange) : heightLimit ≤ chain.reach := by
  have hhead := chain.head.height_le_reach
  rw [reduce_eq_fold] at h
  rcases Outcome.bind_eq_error.mp h with h | ⟨terms, hterms, h⟩
  · have hlimit := limit_le_of_collapseFrom h
    simp only [reach]
    omega
  · have hterms' := height_collapseFrom hterms
    have hlimit := limit_le_of_fold (fun link hl => Tier.eq_additive (tier_of_mem_collapse hterms link hl)) h
    have hle := Nat.le_trans hlimit hterms'
    simp only [reach]
    omega

end Chain

end Calculator
