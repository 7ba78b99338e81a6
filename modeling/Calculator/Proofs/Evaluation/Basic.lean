import Calculator.Evaluation
import Calculator.Proofs.Chain.Unchecked
import Calculator.Proofs.Double.ResultText
import Calculator.Proofs.Token.RoundTrip

/-!
# Values of texts

What it takes for a text to have a value, and what the value can be: always finite, and never a negative zero.
-/

namespace Calculator

variable {s r : String} {v : Double}

theorem calculate_of_tokenize {chain : Chain} (h : tokenize s = .ok chain.toTokens) :
    calculate s = reduce chain.toTokens := by
  rw [calculate_eq, h]
  rfl

theorem calculate_eq_ok :
    calculate s = .ok v ↔ ∃ chain : Chain, tokenize s = .ok chain.toTokens ∧ reduce chain.toTokens = .ok v := by
  rw [calculate_eq]
  constructor
  · intro h
    obtain ⟨tokens, ht, hr⟩ := Outcome.bind_eq_ok.mp h
    obtain ⟨chain, rfl, _⟩ := reduce_eq_ok.mp hr
    exact ⟨chain, ht, hr⟩
  · rintro ⟨chain, ht, hr⟩
    exact Outcome.bind_eq_ok.mpr ⟨_, ht, hr⟩

theorem evaluate_eq (s : String) :
    evaluate s = ((calculate s).map Double.resultText).mapError EvalError.message := by
  unfold evaluate Logged.evaluate calculate
  cases Logged.calculate s with
  | mk outcome events => cases outcome with
      | ok v => rfl
      | error e => rfl

theorem evaluate_eq_ok : evaluate s = .ok r ↔ ∃ v, calculate s = .ok v ∧ v.resultText = r := by
  rw [evaluate_eq]
  cases calculate s with
  | ok v => simp [Except.map, Except.mapError]
  | error e => simp [Except.map, Except.mapError]

theorem evaluate_eq_error {m : String} : evaluate s = .error m ↔ ∃ e, calculate s = .error e ∧ e.message = m := by
  rw [evaluate_eq]
  cases calculate s with
  | ok v => simp [Except.map, Except.mapError]
  | error e => simp [Except.map, Except.mapError]

theorem isFinite_of_calculate (h : calculate s = .ok v) : v.isFinite := by
  rw [calculate_eq] at h
  obtain ⟨tokens, ht, hr⟩ := Outcome.bind_eq_ok.mp h
  rcases isFinite_or_of_reduce hr with hv | rfl
  · exact hv
  · exact ((Token.isScannable_of_tokenize ht).2 v List.mem_cons_self).1

theorem ne_negZero_of_calculate (h : calculate s = .ok v) : v ≠ -0 := by
  obtain ⟨chain, ht, hr⟩ := calculate_eq_ok.mp h
  rw [reduce_toTokens] at hr
  rw [SumOfTerms.eq_compute_of_value hr]
  exact SumOfTerms.compute_ne_negZero fun x hx => ((Token.isScannable_of_tokenize ht).2 x hx).2

/-! ## Texts shown -/

theorem EvalError.message_ne_empty (e : EvalError) : e.message ≠ "" := by
  intro h
  cases e with
  | illegalCharacter c i => exact absurd (String.append_eq_empty_iff.mp h).2 (by decide)
  | divisionByZero => exact absurd h (by decide)
  | malformed m => exact absurd (String.append_eq_empty_iff.mp h).1 (by decide)
  | outOfRange => exact absurd h (by decide)

theorem ne_empty_of_evaluate_ok (h : evaluate s = .ok r) : r ≠ "" := by
  obtain ⟨v, hv, rfl⟩ := evaluate_eq_ok.mp h
  exact Double.resultText_ne_empty (isFinite_of_calculate hv) (ne_negZero_of_calculate hv)

theorem ne_empty_of_evaluate_error {m : String} (h : evaluate s = .error m) : m ≠ "" := by
  obtain ⟨e, _, rfl⟩ := evaluate_eq_error.mp h
  exact e.message_ne_empty

/-- A text is evaluated through its tokens alone. -/
theorem evaluate_congr {t : String} (h : tokenize s = tokenize t) : evaluate s = evaluate t := by
  rw [evaluate_eq, evaluate_eq, calculate_eq, calculate_eq, h]

end Calculator
