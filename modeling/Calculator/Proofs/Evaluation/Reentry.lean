import Calculator.Proofs.Evaluation.Basic
import Calculator.Proofs.Language

/-!
# Results entered again

A result is a text like any other. Without a sign it is a literal for the value that it shows. With one it starts with
an operator, and is a literal once the sign is gone.
-/

namespace Calculator

variable {s r : String} {text : List Char} {v : Double}

/-! ## Single literals -/

theorem tokenize_literal (hs : s.toList = text) (h : Literal.IsReadable text) :
    tokenize s = .ok [.number (Literal.value text)] := by
  subst hs
  rw [tokenize_of_legal (IsExpression.number h.1).legal, lexemes_number h.1]
  exact mapM_read_of_readable (by simpa using h)

theorem tokenize_operator_literal (op : Operator) (hs : s.toList = op.symbol :: text) (h : Literal.IsReadable text) :
    tokenize s = .ok [.operator op, .number (Literal.value text)] := by
  have hl : ∀ c ∈ s.toList, isLegal c := by
    rw [hs]
    exact List.forall_mem_cons.mpr ⟨isLegal_symbol op, (IsExpression.number h.1).legal⟩
  rw [tokenize_of_legal hl, hs, lexemes_symbol_cons, lexemes_number h.1]
  exact mapM_read_of_readable (by simpa using h)

theorem calculate_literal (hs : s.toList = text) (h : Literal.IsReadable text) :
    calculate s = .ok (Literal.value text) := by
  rw [calculate_eq, tokenize_literal hs h]
  rfl

theorem calculate_operator_literal (op : Operator) (hs : s.toList = op.symbol :: text)
    (h : Literal.IsReadable text) : calculate s = .error (.malformed .leadingOperator) := by
  rw [calculate_eq, tokenize_operator_literal op hs h]
  rfl

/-! ## Results -/

open Double (signed toList_resultText_negative)

variable {m : Magnitude}

theorem isReadable_resultText (h : m.isInfinite = false) :
    Literal.IsReadable (signed false m).resultText.toList := by
  obtain ⟨hn, hv⟩ := Double.value_resultText h
  exact ⟨hn, by rw [hv, Double.isFinite_signed, h]; rfl⟩

theorem calculate_resultText (h : m.isInfinite = false) :
    calculate (signed false m).resultText = .ok (signed false m) := by
  rw [calculate_literal rfl (isReadable_resultText h), (Double.value_resultText h).2]

theorem evaluate_resultText (h : m.isInfinite = false) :
    evaluate (signed false m).resultText = .ok (signed false m).resultText :=
  evaluate_eq_ok.mpr ⟨_, calculate_resultText h, rfl⟩

theorem head?_resultText_unsigned (h : m.isInfinite = false) :
    (signed false m).resultText.toList.head? ≠ some '-' := by
  intro hh
  have hc := Literal.isLiteralChar_of_isNumber (isReadable_resultText h).1 '-' (List.mem_of_head? hh)
  cases hc

/-- A result that shows no sign gives itself and its value again. One that shows a sign is negative, and an expression
only without the sign. No value is a negative zero. -/
theorem evaluate_again (s r : String) (h : evaluate s = .ok r) :
    ∃ v, calculate s = .ok v ∧ v ≠ -0 ∧
      (r.toList.head? ≠ some '-' → evaluate r = .ok r ∧ calculate r = .ok v) ∧
      (r.toList.head? = some '-' →
        v.isNegative ∧ v.isZero = false ∧
        evaluate r = .error (EvalError.malformed .leadingOperator).message ∧
        evaluate (String.ofList r.toList.tail) = .ok (String.ofList r.toList.tail)) := by
  obtain ⟨v, hv, rfl⟩ := evaluate_eq_ok.mp h
  have hne := ne_negZero_of_calculate hv
  refine ⟨v, hv, hne, ?_⟩
  have hf := isFinite_of_calculate hv
  cases v with
  | nan => cases hf
  | signed sign m =>
      have hm : m.isInfinite = false := by simpa using hf
      cases sign with
      | false =>
          refine ⟨fun _ => ⟨evaluate_resultText hm, calculate_resultText hm⟩, ?_⟩
          intro hh
          exact absurd hh (head?_resultText_unsigned hm)
      | true =>
          have hz := Double.isZero_of_ne_negZero hne
          have hr := toList_resultText_negative hz
          rw [hr, List.tail_cons, String.ofList_toList]
          refine ⟨fun hh => absurd rfl hh, fun _ => ⟨rfl, hz, ?_, evaluate_resultText hm⟩⟩
          exact evaluate_eq_error.mpr ⟨_, calculate_operator_literal .minus hr (isReadable_resultText hm), rfl⟩

theorem evaluate_again_on_halves :
    evaluate "7/2" = .ok "3.5" ∧ evaluate "3.5" = .ok "3.5" ∧
      evaluate "1-2.5" = .ok "-1.5" ∧
      evaluate "-1.5" = .error "expression invalide: opérateur en tête" ∧ evaluate "1.5" = .ok "1.5" := by
  have hhalf : evaluate "7/2" = .ok "3.5" := by decide +kernel
  have hminus : evaluate "1-2.5" = .ok "-1.5" := by decide +kernel
  obtain ⟨_, _, _, hunsigned, _⟩ := evaluate_again "7/2" "3.5" hhalf
  obtain ⟨_, _, _, _, hsigned⟩ := evaluate_again "1-2.5" "-1.5" hminus
  obtain ⟨_, _, herror, htail⟩ := hsigned (by decide)
  exact ⟨hhalf, (hunsigned (by decide)).1, hminus, herror, htail⟩

end Calculator
