import Calculator.Proofs.Chain.FirstFault
import Calculator.Proofs.Evaluation.Basic
import Calculator.Proofs.Language
import Calculator.Proofs.Message
import Calculator.Proofs.Window.Sheet

/-!
# The window used by its keys

The keys type the characters that are legal in a text, and all of them. So as long as nothing else writes into the entry it
is legal, and the errors shown are those that a legal text can have.
-/

namespace Calculator

open Window (Step)

/-! ## Errors of legal texts -/

def Malformation.isOfLegalText : Malformation → Bool
  | empty | leadingOperator | trailingOperator | adjacentOperators _ | badLiteral _ => true
  | adjacentNumbers _ | unreduced _ => false

/-- The errors that a text of digits, points and operators can have. -/
def EvalError.isOfLegalText : EvalError → Bool
  | divisionByZero | outOfRange => true
  | malformed m => m.isOfLegalText
  | illegalCharacter _ _ => false

theorem Malformation.isOfLegalText_congr {m m' : Malformation} (h : m.message = m'.message) :
    m.isOfLegalText = m'.isOfLegalText := by
  have hidx := ctorIdx_eq_of_message h
  -- Both are of one constructor, or else their indices differ.
  cases m <;> cases m' <;> first | rfl | cases hidx

theorem EvalError.isOfLegalText_congr {e e' : EvalError} (h : e.message = e'.message) :
    e.isOfLegalText = e'.isOfLegalText := by
  have hidx := ctorIdx_eq_of_message h
  cases e with
  | malformed m => cases e' with
      | malformed m' => exact Malformation.isOfLegalText_congr ((String.append_right_inj _).mp h)
      | _ => cases hidx
  | _ => cases e' <;> first | rfl | cases hidx

theorem isOfLegalText_of_ofTokens {tokens : List Token} {m : Malformation} (hn : Token.NoAdjacentNumbers tokens)
    (h : Chain.ofTokens tokens = .error m) : m.isOfLegalText := by
  cases isFirstFault_iff.mpr h with
  | empty => rfl
  | leadingOperator => rfl
  | adjacentOperators => rfl
  | adjacentNumbers => exact absurd h (ofTokens_ne_adjacentNumbers hn _)
  | trailingOperator => rfl

theorem isOfLegalText_of_calculate {s : String} {e : EvalError} (hl : ∀ c ∈ s.toList, isLegal c)
    (h : calculate s = .error e) : e.isOfLegalText := by
  rw [calculate_eq] at h
  cases ht : tokenize s with
  | error e' =>
      rw [ht] at h
      cases h
      rw [tokenize_of_legal hl] at ht
      rcases eq_of_mapM_read_error ht with rfl | ⟨_, rfl⟩
      · rfl
      · rfl
  | ok tokens =>
      rw [ht] at h
      rcases reduce_eq_error h with ⟨m, hm, rfl⟩ | ⟨_, rfl | rfl⟩
      · exact isOfLegalText_of_ofTokens (noAdjacentNumbers_of_tokenize ht) hm
      · rfl
      · rfl

/-! ## Keys -/

namespace Key

theorem isLegal_symbol (key : Key) : isLegal key.symbol := by
  cases key with
  | digit d => revert d; decide
  | point => rfl
  | operator op => exact Calculator.isLegal_symbol op

theorem exists_symbol_eq {c : Char} (h : isLegal c) : ∃ key : Key, key.symbol = c := by
  rcases isLegal_iff.mp h with h | h
  · by_cases hp : c = '.'
    · exact ⟨.point, hp.symm⟩
    · obtain ⟨d, hd⟩ := Decimal.exists_digitChar (Literal.isDigit_of_ne_point h hp)
      exact ⟨.digit d, hd⟩
  · obtain ⟨op, ho⟩ := Option.isSome_iff_exists.mp h
    exact ⟨.operator op, Operator.symbol_of_ofSymbol? ho⟩

theorem mem_all (key : Key) : Button.key key ∈ Button.all := by
  cases key with
  | digit d => revert d; decide
  | point => decide
  | operator op => cases op <;> decide

end Key

/-- A character has a key just when scanning does not refuse it. -/
theorem exists_key_iff (c : Char) :
    (∃ key, Button.key key ∈ Button.all ∧ key.symbol = c) ↔
      ¬∃ d i, tokenize (String.singleton c) = .error (.illegalCharacter d i) := by
  rw [tokenize_illegalCharacter_iff, String.toList_singleton]
  constructor
  · rintro ⟨key, _, rfl⟩
    simp [key.isLegal_symbol]
  · intro h
    obtain ⟨key, hkey⟩ := Key.exists_symbol_eq (c := c) (by simpa using h)
    exact ⟨key, key.mem_all, hkey⟩

/-! ## Runs -/

namespace Sheet

/-- The entry is legal, and so is the text that the error is of. -/
structure IsKeyed (sheet : Sheet) : Prop where
  entry : ∀ c ∈ sheet.entry.toList, isLegal c
  error : sheet.error = "" ∨ ∃ e : EvalError, e.isOfLegalText ∧ sheet.error = e.message

variable {sheet : Sheet} {history : List Step}

theorem isKeyed_empty : IsKeyed {} := ⟨by simp, .inl rfl⟩

theorem isKeyed_evaluated {entry : String} (h : ∀ c ∈ entry.toList, isLegal c) : (evaluated entry).IsKeyed := by
  refine ⟨fun c hc => h c (by rwa [entry_evaluated] at hc), ?_⟩
  unfold evaluated
  cases he : evaluate entry with
  | ok result => exact .inl rfl
  | error message =>
      obtain ⟨e, hc, rfl⟩ := evaluate_eq_error.mp he
      exact .inr ⟨e, isOfLegalText_of_calculate h hc, rfl⟩

theorem IsKeyed.press (h : sheet.IsKeyed) (button : Button) : (sheet.press button).IsKeyed := by
  cases button with
  | clear => exact isKeyed_empty
  | delete =>
      refine ⟨fun c hc => ?_, h.error⟩
      exact h.entry c (List.dropLast_subset _ (by simpa [Sheet.press] using hc))
  | equals => exact isKeyed_evaluated h.entry
  | key k =>
      refine ⟨fun c hc => ?_, h.error⟩
      rw [Sheet.press, String.toList_append, List.mem_append] at hc
      rcases hc with hc | hc
      · exact h.entry c hc
      · rw [Button.label, String.toList_singleton, List.mem_singleton] at hc
        exact hc ▸ k.isLegal_symbol

theorem IsKeyed.step (h : sheet.IsKeyed) {step : Step} (hs : ∀ text, step ≠ .setEntry text) :
    (sheet.step history step).IsKeyed := by
  cases step with
  | idle => exact h
  | enter =>
      rw [Sheet.step]
      split
      · exact isKeyed_evaluated h.entry
      · exact h
  | escape => exact isKeyed_empty
  | escapeEnter => exact isKeyed_evaluated isKeyed_empty.entry
  | setEntry text => exact absurd rfl (hs text)
  | press button => exact h.press button

theorem isKeyed_after (h : ∀ text, .setEntry text ∉ history) : (after history).IsKeyed := by
  induction history with
  | nil => exact isKeyed_empty
  | cons step history ih =>
      have hrest : (after history).IsKeyed := ih fun text hm => h text (List.mem_cons_of_mem _ hm)
      exact hrest.step fun text hstep => h text (hstep ▸ List.mem_cons_self)

end Sheet

/-- As long as no text is put into the entry from outside, the entry has legal characters only and each error shown is one
that a legal text can have. Just the legal characters have keys. -/
theorem run_by_keys (steps : List Step) (h : ∀ text, .setEntry text ∉ steps) :
    let panel := (Window.opened.run steps).panel
    (∀ c ∈ panel.entry.toList, isLegal c) ∧
      (panel.error ≠ "" → ∃ e : EvalError, e.isOfLegalText ∧ panel.error = e.message) ∧
      (∀ e : EvalError, panel.error = e.message → e.isOfLegalText) ∧
      ∀ c, (∃ key, Button.key key ∈ Button.all ∧ key.symbol = c) ↔
        ¬∃ d i, tokenize (String.singleton c) = .error (.illegalCharacter d i) := by
  intro panel
  have hkeyed : panel.sheet.IsKeyed := by
    rw [Window.sheet_run]
    exact Sheet.isKeyed_after fun text hm => h text (List.mem_reverse.mp hm)
  refine ⟨hkeyed.entry, hkeyed.error.resolve_left, fun e he => ?_, exists_key_iff⟩
  have hne : panel.error ≠ "" := he ▸ e.message_ne_empty
  obtain ⟨e', hlegal, he'⟩ := hkeyed.error.resolve_left hne
  exact EvalError.isOfLegalText_congr (he'.symm.trans he) ▸ hlegal

theorem run_by_keys_on_division :
    let panel := (Window.opened.run
      [.press (.digit 1), .press (.operator .divide), .press (.digit 0), .press .equals]).panel
    panel.entry = "1/0" ∧ panel.error = "division par zéro" ∧ (∀ c ∈ panel.entry.toList, isLegal c) ∧
      ∃ e : EvalError, e.isOfLegalText ∧ panel.error = e.message := by
  intro panel
  have hpanel : panel.entry = "1/0" ∧ panel.error = "division par zéro" := by decide +kernel
  obtain ⟨hentry, herror, _⟩ :=
    run_by_keys [.press (.digit 1), .press (.operator .divide), .press (.digit 0), .press .equals] (by simp)
  exact ⟨hpanel.1, hpanel.2, hentry, herror (hpanel.2 ▸ by decide)⟩

end Calculator
