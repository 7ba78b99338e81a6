import Calculator.Double.Text
import Calculator.Proofs.Double.Arithmetic
import Calculator.Proofs.Token.Literal

/-!
# Doubles read back

The shortest decimal of a magnitude reads back as the magnitude, and what it is written as is a literal. So a
finite double without a sign is the value of its own text.
-/

namespace Calculator

/-! ## Shortest decimals -/

namespace Decimal

variable {m : Magnitude}

theorem ofDecimal_of_onGrid? {power d : Decimal} (h : onGrid? m power = some d) : Magnitude.ofDecimal d = m := by
  unfold onGrid? at h
  dsimp only at h
  split at h
  · rename_i hb ha
    rw [Option.some.injEq] at h
    subst h
    split
    · exact of_decide_eq_true hb
    · exact of_decide_eq_true ha
  · rename_i hb _
    rw [Option.some.injEq] at h
    exact h ▸ of_decide_eq_true hb
  · rename_i _ ha
    rw [Option.some.injEq] at h
    exact h ▸ of_decide_eq_true ha
  · cases h

theorem nearest_scaled (m : Magnitude) (k : Nat) : .nearest (2 ^ k * (5 ^ k * m.quanta)) (10 ^ k) = m := by
  rw [← Nat.mul_assoc, ← Nat.mul_pow]
  exact Magnitude.nearest_quanta m (Nat.pow_pos (by decide))

theorem ofDecimal_exact (m : Magnitude) : Magnitude.ofDecimal (exact m) = m := by
  unfold Magnitude.ofDecimal Magnitude.quantaPerOne exact
  generalize 1074 = places
  exact nearest_scaled m places

/-- The search only stops at a decimal that reads back, and so does the exact value. -/
theorem ofDecimal_shortest (m : Magnitude) : Magnitude.ofDecimal (shortest m) = m := by
  unfold shortest
  dsimp only
  generalize powers _ _ = grids
  cases h : grids.findSome? (onGrid? m) with
  | none => exact ofDecimal_exact m
  | some d =>
      obtain ⟨power, _, hd⟩ := List.exists_of_findSome?_eq_some h
      exact ofDecimal_of_onGrid? hd

/-! ## Written decimals -/

theorem isLiteralChar_of_mem_write (d : Decimal) : ∀ c ∈ d.write, Token.isLiteralChar c := by
  have hdigit : ∀ c : Char, c.isDigit → Token.isLiteralChar c := fun c h => by simp [Token.isLiteralChar, h]
  intro c hc
  unfold write at hc
  dsimp only at hc
  split at hc
  · exact hdigit c (isDigit_of_mem_toDigits c hc)
  · rcases List.mem_append.mp hc with hc | hc
    · exact hdigit c (isDigit_of_mem_toDigits c hc)
    · rcases List.mem_cons.mp hc with rfl | hc
      · rfl
      · exact hdigit c (isDigit_of_mem_leftpad c hc)

theorem isNumber_write (d : Decimal) : Literal.isNumber d.write ∧ Literal.decimal d.write = d := by
  have h := read?_write d
  rw [Literal.read?_eq (isLiteralChar_of_mem_write d)] at h
  split at h
  · exact ⟨by assumption, Option.some.inj h⟩
  · cases h

end Decimal

/-! ## Texts of doubles -/

namespace Double

theorem eq_signed_of_isFinite {x : Double} (h : x.isFinite) (hs : x.isNegative = false) :
    ∃ m, x = signed false m ∧ m.isInfinite = false := by
  cases x with
  | nan => cases h
  | signed s m =>
      cases hs
      exact ⟨m, rfl, by simpa [isFinite] using h⟩

theorem text_of_isFinite {m : Magnitude} (h : m.isInfinite = false) :
    (signed false m).text.toList = (Decimal.shortest m).write := by
  simp [text, h]

theorem value_text {x : Double} (h : x.isFinite) (hs : x.isNegative = false) :
    Literal.isNumber x.text.toList ∧ Literal.value x.text.toList = x := by
  obtain ⟨m, rfl, hm⟩ := eq_signed_of_isFinite h hs
  obtain ⟨hn, hd⟩ := Decimal.isNumber_write (Decimal.shortest m)
  rw [text_of_isFinite hm, Literal.value, hd, ofDecimal, Decimal.ofDecimal_shortest]
  exact ⟨hn, rfl⟩

end Double

theorem Literal.isNegative_value (text : List Char) : (value text).isNegative = false := rfl

end Calculator
