import Calculator.Evaluation
import Calculator.Proofs.Chain.FirstFault
import Calculator.Proofs.Token.Scan

/-!
# The language of expressions

The texts that are numbers joined by operators are just those that can only fail on their numbers. Any other text
is an error, and of all that is wrong with it the first in a fixed order of stages is reported: an illegal
character, then a bad literal, then the order of the tokens.
-/

namespace Calculator

/-- Numbers joined by operators. -/
inductive IsExpression : List Char → Prop
  | number {text} (h : Literal.isNumber text) : IsExpression text
  | operation {text rest} (h : Literal.isNumber text) (op : Operator) (hrest : IsExpression rest) :
      IsExpression (text ++ op.symbol :: rest)

/-! ## Expressions are legal -/

theorem IsExpression.legal {text : List Char} (h : IsExpression text) : ∀ c ∈ text, isLegal c := by
  induction h with
  | number h =>
      intro c hc
      exact isLegal_of_isLiteralChar (Literal.isLiteralChar_of_isNumber h c hc)
  | operation h op _ ih =>
      intro c hc
      rcases List.mem_append.mp hc with hc | hc
      · exact isLegal_of_isLiteralChar (Literal.isLiteralChar_of_isNumber h c hc)
      · rcases List.mem_cons.mp hc with rfl | hc
        · exact isLegal_symbol op
        · exact ih c hc

/-! ## Expressions are chains -/

theorem lexemes_number {text : List Char} (h : Literal.isNumber text) : lexemes text = [.run text] :=
  lexemes_run (Literal.ne_nil_of_isNumber h) (Literal.isLiteralChar_of_isNumber h)

theorem lexemes_operation {text : List Char} (h : Literal.isNumber text) (op : Operator) (rest : List Char) :
    lexemes (text ++ op.symbol :: rest) = .run text :: .operator op :: lexemes rest := by
  rw [lexemes_append_symbol, lexemes_number h, List.singleton_append]

theorem IsExpression.isNumber_of_mem_runs {text : List Char} (h : IsExpression text) :
    ∀ run ∈ runs text, Literal.isNumber run := by
  induction h with
  | number h => simpa [runs, lexemes_number h] using h
  | operation h op _ ih =>
      intro run hr
      simp only [runs, lexemes_operation h, Lexeme.filterMap_run?_run, Lexeme.filterMap_run?_operator,
        List.mem_cons] at hr
      rcases hr with rfl | hr
      · exact h
      · exact ih run hr

theorem IsExpression.exists_chain {text : List Char} (h : IsExpression text) {tokens : List Token}
    (ht : (lexemes text).mapM Lexeme.read = .ok tokens) : ∃ chain : Chain, tokens = chain.toTokens := by
  induction h generalizing tokens with
  | number h =>
      rw [lexemes_number h] at ht
      obtain ⟨token, rest, hr, hm, rfl⟩ := Outcome.mapM_eq_ok_cons.mp ht
      obtain ⟨_, rfl⟩ := Lexeme.read_run hr
      cases hm
      exact ⟨⟨_, []⟩, rfl⟩
  | operation h op _ ih =>
      rw [lexemes_operation h] at ht
      obtain ⟨token, more, hr, hm, rfl⟩ := Outcome.mapM_eq_ok_cons.mp ht
      obtain ⟨_, rfl⟩ := Lexeme.read_run hr
      obtain ⟨token, rest, ho, hrest, rfl⟩ := Outcome.mapM_eq_ok_cons.mp hm
      cases ho
      obtain ⟨chain, rfl⟩ := ih hrest
      exact ⟨⟨_, (op, chain.head) :: chain.links⟩, rfl⟩

theorem isExpression_of_mapM_read {chain : Chain} {ls : List Lexeme}
    (h : ls.mapM Lexeme.read = .ok chain.toTokens) : IsExpression (ls.flatMap Lexeme.text) := by
  obtain ⟨head, links⟩ := chain
  induction links generalizing head ls with
  | nil =>
      obtain ⟨text, rest, rfl, hf, _, hr⟩ := eq_run_cons_of_mapM_read h
      cases eq_nil_of_mapM_read hr
      simpa [Lexeme.text] using IsExpression.number (Literal.fault?_eq_none.mp hf).1
  | cons link links ih =>
      obtain ⟨op, value⟩ := link
      obtain ⟨text, more, rfl, hf, _, hm⟩ := eq_run_cons_of_mapM_read h
      obtain ⟨rest, rfl, hr⟩ := eq_operator_cons_of_mapM_read hm
      exact .operation (Literal.fault?_eq_none.mp hf).1 op (ih value hr)

theorem isExpression_of_tokenize {s : String} {chain : Chain} (h : tokenize s = .ok chain.toTokens) :
    IsExpression s.toList := by
  rw [tokenize_of_legal (legal_of_tokenize h)] at h
  rw [← flatMap_lexemes s.toList]
  exact isExpression_of_mapM_read h

/-! ## Texts that are no expressions -/

theorem calculate_of_fault {s : String} {e : EvalError} (hl : ∀ c ∈ s.toList, isLegal c)
    (h : (runs s.toList).findSome? Literal.fault? = some e) : calculate s = .error e := by
  rw [calculate_eq, tokenize_of_legal hl, mapM_read_eq_error.mpr h]
  rfl

/-- Illegal characters are found while scanning and not later. -/
theorem calculate_eq_illegalCharacter {s : String} {c : Char} {i : Nat} :
    calculate s = .error (.illegalCharacter c i) ↔ tokenize s = .error (.illegalCharacter c i) := by
  rw [calculate_eq]
  cases tokenize s with
  | error e => simp only [Except.bind, Except.error.injEq]
  | ok tokens =>
      refine ⟨fun h => ?_, fun h => by cases h⟩
      rcases reduce_eq_error h with ⟨_, _, he⟩ | ⟨_, he | he⟩ <;> cases he

theorem exists_illegalCharacter_iff (s : String) :
    (∃ c i, calculate s = .error (.illegalCharacter c i)) ↔ ∃ c ∈ s.toList, ¬isLegal c := by
  simp only [calculate_eq_illegalCharacter]
  exact tokenize_illegalCharacter_iff

/-- A text that has no other fault and is no expression has its tokens in a wrong order. -/
theorem exists_firstFault {s : String} (h : ¬IsExpression s.toList) (hl : ∀ c ∈ s.toList, isLegal c)
    (hf : (runs s.toList).findSome? Literal.fault? = none) :
    ∃ tokens m, tokenize s = .ok tokens ∧ tokens.map Token.isNumber = (lexemes s.toList).map Lexeme.isRun ∧
      Chain.firstFault? tokens = some m ∧ calculate s = .error (.malformed m) := by
  obtain ⟨tokens, ht⟩ := exists_mapM_read hf
  have hs : tokenize s = .ok tokens := by rw [tokenize_of_legal hl, ht]
  cases hc : Chain.ofTokens tokens with
  | ok chain =>
      rw [Chain.ofTokens_eq_ok.mp hc] at hs
      exact absurd (isExpression_of_tokenize hs) h
  | error m =>
      refine ⟨tokens, m, hs, map_isNumber_of_mapM_read ht, Chain.ofTokens_eq_error.mp hc, ?_⟩
      rw [calculate_eq, hs]
      exact reduce_of_ofTokens_error hc

theorem exists_error {s : String} (h : ¬IsExpression s.toList) : ∃ e, calculate s = .error e := by
  by_cases hl : ∀ c ∈ s.toList, isLegal c
  · cases hf : (runs s.toList).findSome? Literal.fault? with
    | some e => exact ⟨e, calculate_of_fault hl hf⟩
    | none =>
        obtain ⟨_, m, _, _, _, hc⟩ := exists_firstFault h hl hf
        exact ⟨_, hc⟩
  · obtain ⟨c, i, hc⟩ := (exists_illegalCharacter_iff s).mpr (by simpa using hl)
    exact ⟨_, hc⟩

/-! ## Expressions -/

theorem IsExpression.fault?_eq {text run : List Char} (h : IsExpression text) (hr : run ∈ runs text) :
    Literal.fault? run = if (Literal.value run).isFinite then none else some .outOfRange := by
  rw [Literal.fault?, if_pos (h.isNumber_of_mem_runs run hr)]

theorem IsExpression.calculate_of_infinite {s : String} (h : IsExpression s.toList)
    (hi : ∃ run ∈ runs s.toList, ¬(Literal.value run).isFinite) : calculate s = .error .outOfRange := by
  obtain ⟨run, hr, hv⟩ := hi
  cases hf : (runs s.toList).findSome? Literal.fault? with
  | none =>
      have := List.findSome?_eq_none_iff.mp hf run hr
      rw [h.fault?_eq hr, if_neg hv] at this
      cases this
  | some e =>
      obtain ⟨run', hr', he⟩ := List.exists_of_findSome?_eq_some hf
      rw [h.fault?_eq hr'] at he
      split at he
      · cases he
      · cases he
        exact calculate_of_fault h.legal hf

theorem IsExpression.calculate_of_finite {s : String} (h : IsExpression s.toList)
    (hv : ∀ run ∈ runs s.toList, (Literal.value run).isFinite) :
    ∃ chain : Chain, tokenize s = .ok chain.toTokens ∧ calculate s = chain.terms.value := by
  have hf : (runs s.toList).findSome? Literal.fault? = none := by
    rw [List.findSome?_eq_none_iff]
    intro run hr
    rw [h.fault?_eq hr, if_pos (hv run hr)]
  obtain ⟨tokens, ht⟩ := exists_mapM_read hf
  obtain ⟨chain, rfl⟩ := h.exists_chain ht
  have hs : tokenize s = .ok chain.toTokens := by rw [tokenize_of_legal h.legal, ht]
  refine ⟨chain, hs, ?_⟩
  rw [calculate_eq, hs]
  exact reduce_toTokens chain

theorem IsExpression.isArithmetic_of_calculate {s : String} (h : IsExpression s.toList) {e : EvalError}
    (he : calculate s = .error e) : e.IsArithmetic := by
  by_cases hv : ∀ run ∈ runs s.toList, (Literal.value run).isFinite
  · obtain ⟨chain, _, hc⟩ := h.calculate_of_finite hv
    exact SumOfTerms.isArithmetic_of_value (hc ▸ he)
  · have hi : ∃ run ∈ runs s.toList, ¬(Literal.value run).isFinite := by simpa using hv
    rw [h.calculate_of_infinite hi] at he
    cases he
    exact .inr rfl

theorem calculate_ne_adjacentNumbers (s : String) (i : Nat) :
    calculate s ≠ .error (.malformed (.adjacentNumbers i)) := by
  intro h
  rw [calculate_eq] at h
  cases ht : tokenize s with
  | ok tokens =>
      rw [ht] at h
      exact ofTokens_ne_adjacentNumbers (noAdjacentNumbers_of_tokenize ht) i (reduce_eq_malformed.mp h)
  | error e =>
      rw [ht] at h
      cases h
      rcases tokenize_eq_error ht with ⟨_, _, he⟩ | ⟨text, _, he⟩
      · cases he
      · rcases Literal.eq_of_fault? he with he | he
        · cases he
        · cases he

/-- An illegal character is reported before all else. A text that has none and is no expression gives its first
bad literal, or else the first fault in the order of its tokens. An expression fails on its numbers alone. -/
theorem calculate_first_fault (s : String) :
    ((∃ c i, calculate s = .error (.illegalCharacter c i)) ↔ ∃ c ∈ s.toList, ¬isLegal c) ∧
    (¬IsExpression s.toList →
      (∃ e, calculate s = .error e) ∧
      ((∀ c ∈ s.toList, isLegal c) →
        Lexeme.IsCut s.toList (lexemes s.toList) ∧
        (∀ e, (runs s.toList).findSome? Literal.fault? = some e → calculate s = .error e) ∧
        ((runs s.toList).findSome? Literal.fault? = none →
          ∃ tokens m, tokenize s = .ok tokens ∧
            tokens.map Token.isNumber = (lexemes s.toList).map Lexeme.isRun ∧
            Chain.firstFault? tokens = some m ∧ calculate s = .error (.malformed m)))) ∧
    (IsExpression s.toList →
      (∀ e, calculate s = .error e → e = .divisionByZero ∨ e = .outOfRange) ∧
      ((∃ run ∈ runs s.toList, ¬(Literal.value run).isFinite) → calculate s = .error .outOfRange) ∧
      ((∀ run ∈ runs s.toList, (Literal.value run).isFinite) →
        ∃ chain : Chain, tokenize s = .ok chain.toTokens ∧ calculate s = chain.terms.value)) ∧
    ∀ i, calculate s ≠ .error (.malformed (.adjacentNumbers i)) := by
  refine ⟨exists_illegalCharacter_iff s, ?_, ?_, calculate_ne_adjacentNumbers s⟩
  · intro h
    refine ⟨exists_error h, fun hl => ⟨lexemes_isCut hl, ?_, exists_firstFault h hl⟩⟩
    intro e hf
    exact calculate_of_fault hl hf
  · intro h
    exact ⟨fun _ => h.isArithmetic_of_calculate, h.calculate_of_infinite, h.calculate_of_finite⟩

end Calculator
