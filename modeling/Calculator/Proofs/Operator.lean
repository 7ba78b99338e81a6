import Calculator.Operator
import Calculator.Proofs.Double.Arithmetic

/-!
# Application of operators

The value of an operator on two doubles, whatever it is, and when applying the operator gives that value.
-/

namespace Calculator

/-- The errors that come of numbers and not of the text. -/
def EvalError.IsArithmetic (e : EvalError) : Prop := e = .divisionByZero ∨ e = .outOfRange

namespace Operator

def compute : Operator → Double → Double → Double
  | plus, left, right => left + right
  | minus, left, right => left - right
  | times, left, right => left * right
  | divide, left, right => left / right

variable {op : Operator} {left right : Double}

theorem apply_eq (op : Operator) (left right : Double) :
    op.apply left right =
      if op = divide ∧ right.isZero then .error .divisionByZero
      else if (op.compute left right).isFinite then .ok (op.compute left right)
      else .error .outOfRange := by
  cases op <;> rfl

theorem isArithmetic_of_apply {e : EvalError} (h : op.apply left right = .error e) : e.IsArithmetic := by
  rw [apply_eq] at h
  split at h
  · cases h; exact .inl rfl
  · split at h
    · cases h
    · cases h; exact .inr rfl

/-! ## Without the checks -/

theorem isFinite_left_of_compute (h : (op.compute left right).isFinite) : left.isFinite := by
  cases op with
  | plus => exact (Double.isFinite_of_add h).1
  | minus => exact (Double.isFinite_of_sub h).1
  | times => exact Double.isFinite_of_mul h
  | divide => exact (Double.isFinite_of_div h).1

theorem isFinite_right_of_compute (ht : op.tier = .additive) (h : (op.compute left right).isFinite) :
    right.isFinite := by
  cases op with
  | plus => exact (Double.isFinite_of_add h).2
  | minus => exact (Double.isFinite_of_sub h).2
  | times => cases ht
  | divide => cases ht

/-- The checks refuse the values that are not finite and nothing else, for a division by zero has no other. -/
theorem apply_eq_ok {value : Double} :
    op.apply left right = .ok value ↔ value = op.compute left right ∧ value.isFinite := by
  rw [apply_eq]
  by_cases hz : op = divide ∧ right.isZero
  · obtain ⟨rfl, hz⟩ := hz
    rw [if_pos ⟨rfl, hz⟩]
    constructor
    · intro h
      cases h
    · rintro ⟨rfl, hf⟩
      have hr := (Double.isFinite_of_div hf).2
      rw [hz] at hr
      cases hr
  · rw [if_neg hz]
    constructor
    · intro h
      split at h
      · cases h
        exact ⟨rfl, by assumption⟩
      · cases h
    · rintro ⟨rfl, hf⟩
      rw [if_pos hf]

theorem eqUpToZero_compute (ht : op.tier = .additive) {other : Double} (h : left.EqUpToZero other) :
    (op.compute left right).EqUpToZero (op.compute other right) := by
  cases op with
  | plus => exact h.add right
  | minus => exact h.sub right
  | times => cases ht
  | divide => cases ht

theorem eq_negZero_of_compute (ht : op.tier = .additive) (h : op.compute left right = -0) : left = -0 := by
  cases op with
  | plus => exact Double.eq_negZero_of_add h
  | minus => exact Double.eq_negZero_of_sub h
  | times => cases ht
  | divide => cases ht

theorem isNegative_compute (ht : op.tier = .multiplicative) (hl : left.isNegative = false)
    (hr : right.isNegative = false) : (op.compute left right).isNegative = false := by
  cases op with
  | plus => cases ht
  | minus => cases ht
  | times => exact Double.isNegative_mul hl hr
  | divide => exact Double.isNegative_div hl hr

end Operator

end Calculator
