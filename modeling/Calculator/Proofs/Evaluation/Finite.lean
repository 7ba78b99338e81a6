import Calculator.Proofs.Decimal.Numeral
import Calculator.Proofs.Evaluation.Basic

/-!
# Finite results

Literals and the values of operators are checked one by one, and nothing checks the list of tokens. A value that is
not finite is then a number that met no operator, and no text has it. What texts have is written as a numeral.
-/

namespace Calculator

variable {v : Double}

/-! ## Texts of results -/

namespace Double

theorem resultText_mem_numeral (hf : v.isFinite) (h : v ≠ -0) : v.resultText.toList ∈ Numeral.numeral.matches' := by
  cases v with
  | nan => cases hf
  | signed s m =>
      have hm : m.isInfinite = false := by simpa using hf
      obtain ⟨d, hd, _, hr⟩ := exists_resultText_unsigned hm
      have hw := Decimal.write_mem_unsigned hr
      cases s with
      | false =>
          rw [hd, String.toList_ofList]
          exact Numeral.mem_numeral hw
      | true =>
          rw [toList_resultText_negative (isZero_of_ne_negZero h), hd, String.toList_ofList]
          exact Numeral.minus_mem_numeral hw

theorem resultText_ne_minusZero (hf : v.isFinite) (h : v ≠ -0) : v.resultText ≠ "-0" := by
  intro ht
  cases v with
  | nan => cases hf
  | signed s m =>
      have hm : m.isInfinite = false := by simpa using hf
      obtain ⟨hn, hv⟩ := value_resultText hm
      cases s with
      | false =>
          rw [ht] at hn
          exact absurd hn (by decide)
      | true =>
          have hz := isZero_of_ne_negZero h
          have hzero : (signed false m).resultText = "0" := by
            rw [resultText_negative hz] at ht
            exact (String.append_right_inj "-").mp ht
          -- Behind the sign the text reads back as the magnitude, which is no zero.
          have hread : (Literal.value "0".toList).isZero := by decide +kernel
          rw [← hzero, hv] at hread
          exact Bool.false_ne_true (hz.symm.trans hread)

end Double

/-- No value that is not finite passes for a result. A list of tokens has one only if it is a number that stands alone,
and a text never has one. -/
theorem no_nonfinite_result :
    (∀ tokens v, reduce tokens = .ok v ∧ v.isFinite = false ↔ tokens = [.number v] ∧ v.isFinite = false) ∧
      (∀ tokens v op, reduce tokens = .ok v → .operator op ∈ tokens → v.isFinite) ∧
      ∀ s r, evaluate s = .ok r →
        ∃ v, calculate s = .ok v ∧ v.isFinite ∧ r.toList ∈ Numeral.numeral.matches' ∧ r ≠ "-0" := by
  refine ⟨fun tokens v => ⟨?_, ?_⟩, ?_, ?_⟩
  · rintro ⟨h, hv⟩
    have hn : ¬v.isFinite := by simp [hv]
    exact ⟨(isFinite_or_of_reduce h).resolve_left hn, hv⟩
  · rintro ⟨rfl, hv⟩
    exact ⟨rfl, hv⟩
  · intro tokens v op h hop
    refine (isFinite_or_of_reduce h).resolve_right ?_
    rintro rfl
    simp at hop
  · intro s r h
    obtain ⟨v, hv, rfl⟩ := evaluate_eq_ok.mp h
    have hf := isFinite_of_calculate hv
    have hne := ne_negZero_of_calculate hv
    exact ⟨v, hv, hf, Double.resultText_mem_numeral hf hne, Double.resultText_ne_minusZero hf hne⟩

theorem no_nonfinite_result_of_eighth :
    reduce [.number .nan] = .ok .nan ∧ evaluate "1/8" = .ok "0.125" ∧
      "0.125".toList ∈ Numeral.numeral.matches' := by
  have heighth : evaluate "1/8" = .ok "0.125" := by decide +kernel
  obtain ⟨halone, _, htext⟩ := no_nonfinite_result
  obtain ⟨_, _, _, hmem, _⟩ := htext "1/8" "0.125" heighth
  exact ⟨((halone [.number .nan] .nan).mpr ⟨rfl, rfl⟩).1, heighth, hmem⟩

end Calculator
