import Calculator.Proofs.Decimal.Reduced

/-!
# Texts of results

A finite result without sign is written as a decimal that reads back as the result, whether it has a numeral of its
own or not. A negative result has a minus sign in front of that, and a zero has none.
-/

namespace Calculator.Double

open Magnitude (quantaPerOne)

variable {s : Bool} {m : Magnitude}

/-! ## Numerals -/

theorem smallInteger?_eq_some {n : Int} (h : (signed false m).smallInteger? = some n) :
    ∃ whole : Nat, m.quanta = quantaPerOne * whole ∧ n = whole := by
  simp only [smallInteger?] at h
  split at h
  · rename_i hw
    cases h
    exact ⟨_, (Nat.mul_div_cancel' (Nat.dvd_of_mod_eq_zero hw.1)).symm, rfl⟩
  · cases h

theorem smallInteger?_negative (m : Magnitude) :
    (signed true m).smallInteger? = (signed false m).smallInteger?.map (-·) := by
  simp only [smallInteger?]
  split
  · rfl
  · rfl

theorem toString_natCast (n : Nat) : toString (n : Int) = String.ofList (Decimal.write ⟨n, 0⟩) := by
  have hw : Decimal.write ⟨n, 0⟩ = Nat.toDigits 10 n := by simp [Decimal.write]
  rw [hw, ← Nat.toString_eq_ofList_toDigits]
  rfl

theorem toString_neg_natCast {n : Nat} (h : 0 < n) : toString (-(n : Int)) = "-" ++ toString (n : Int) := by
  cases n with
  | zero => omega
  | succ n => rfl

theorem ofDecimal_numeral {n : Nat} (h : m.quanta = quantaPerOne * n) : Magnitude.ofDecimal ⟨n, 0⟩ = m := by
  rw [Magnitude.ofDecimal, ← h]
  exact Magnitude.nearest_one m

/-! ## Signs -/

theorem eq_zero_of_isZero {x : Double} (h : x ≠ -0) (hz : x.isZero) : x = 0 := by
  obtain ⟨s, rfl⟩ := eq_signed_of_isZero hz
  cases s with
  | false => rfl
  | true => exact absurd rfl h

/-- What shows a sign is no zero. -/
theorem isZero_of_ne_negZero (h : signed true m ≠ -0) : m.isZero = false := by
  cases hz : m.isZero with
  | false => rfl
  | true =>
      rw [Magnitude.eq_zero_of_isZero hz] at h
      exact absurd rfl h

theorem resultText_eq {x : Double} (h : x ≠ -0) :
    x.resultText = (x.smallInteger?.map toString).getD x.text := by
  have hx : (if x.isZero then 0 else x) = x := by
    split
    · rename_i hz
      exact (eq_zero_of_isZero h hz).symm
    · rfl
  unfold resultText
  rw [hx]
  dsimp only
  cases x.smallInteger? with
  | none => rfl
  | some n => rfl

theorem signed_ne_negZero (h : s = false ∨ m.isZero = false) : signed s m ≠ -0 := by
  rintro ⟨⟩
  rcases h with h | h <;> cases h

theorem exists_resultText_unsigned (h : m.isInfinite = false) :
    ∃ d : Decimal, (signed false m).resultText = String.ofList d.write ∧ Magnitude.ofDecimal d = m ∧ d.IsReduced := by
  rw [resultText_eq (signed_ne_negZero (.inl rfl))]
  cases hi : (signed false m).smallInteger? with
  | none =>
      refine ⟨Decimal.shortest m, ?_, Decimal.ofDecimal_shortest m, Decimal.isReduced_shortest m⟩
      rw [← text_of_isFinite h, String.ofList_toList]
      rfl
  | some n =>
      obtain ⟨whole, hq, rfl⟩ := smallInteger?_eq_some hi
      exact ⟨⟨whole, 0⟩, toString_natCast whole, ofDecimal_numeral hq, .inl rfl⟩

/-- A result without sign is a literal for itself. -/
theorem value_resultText (h : m.isInfinite = false) :
    Literal.isNumber (signed false m).resultText.toList ∧
      Literal.value (signed false m).resultText.toList = signed false m := by
  obtain ⟨d, hd, hm, _⟩ := exists_resultText_unsigned h
  obtain ⟨hn, hw⟩ := Decimal.isNumber_write d
  rw [hd, String.toList_ofList, Literal.value, hw, ofDecimal, hm]
  exact ⟨hn, rfl⟩

theorem text_negative (m : Magnitude) : (signed true m).text = "-" ++ (signed false m).text := by
  simp [text]

theorem resultText_negative (h : m.isZero = false) :
    (signed true m).resultText = "-" ++ (signed false m).resultText := by
  rw [resultText_eq (signed_ne_negZero (.inr h)), resultText_eq (signed_ne_negZero (.inl rfl)),
    smallInteger?_negative]
  cases hi : (signed false m).smallInteger? with
  | none => exact text_negative m
  | some n =>
      obtain ⟨whole, hq, rfl⟩ := smallInteger?_eq_some hi
      have hpos := Magnitude.quanta_pos_of_isZero h
      rw [hq] at hpos
      exact toString_neg_natCast (Nat.pos_of_mul_pos_left hpos)

theorem toList_resultText_negative (h : m.isZero = false) :
    (signed true m).resultText.toList = '-' :: (signed false m).resultText.toList := by
  rw [resultText_negative h]
  simp

theorem resultText_ne_empty {x : Double} (hf : x.isFinite) (h : x ≠ -0) : x.resultText ≠ "" := by
  cases x with
  | nan => cases hf
  | signed s m =>
      cases s with
      | false =>
          have hm : m.isInfinite = false := by simpa using hf
          intro he
          have hne := Literal.ne_nil_of_isNumber (value_resultText hm).1
          rw [he] at hne
          exact hne rfl
      | true =>
          rw [resultText_negative (isZero_of_ne_negZero h)]
          simp

end Calculator.Double
