import Calculator.Proofs.Token.Scan

/-!
# How many tokens a text has

The literals of a text are what stands between its other characters. A text that is scanned has a token for each of them and
one for each operator character.
-/

namespace Calculator

def isSymbol (c : Char) : Bool := c ∈ ['+', '-', '*', '/']

/-- The longest runs of digits and points. -/
def literals (text : List Char) : List (List Char) := (text.splitOnP (!Token.isLiteralChar ·)).filter (· ≠ [])

variable {text run : List Char} {ls : List Lexeme} {c : Char}

theorem isSymbol_iff : isSymbol c ↔ (Operator.ofSymbol? c).isSome := by
  rw [Operator.ofSymbol?_isSome_iff]
  simp [isSymbol]

theorem isSymbol_symbol (op : Operator) : isSymbol op.symbol := by
  rw [isSymbol_iff, Operator.ofSymbol?_symbol]
  rfl

theorem not_isSymbol_of_isLiteralChar (h : Token.isLiteralChar c) : ¬isSymbol c := by
  rw [isSymbol_iff, Operator.ofSymbol?_of_isLiteralChar h]
  simp

/-! ## Literals -/

/-- No literal reaches over another character. -/
theorem literals_append_cons (text : List Char) (h : ¬Token.isLiteralChar c) (rest : List Char) :
    literals (text ++ c :: rest) = literals text ++ literals rest := by
  rw [literals, List.splitOnP_append_cons text rest (by simpa using h), List.filter_append]
  rfl

theorem literals_append_symbol (text : List Char) (op : Operator) (rest : List Char) :
    literals (text ++ op.symbol :: rest) = literals text ++ literals rest :=
  literals_append_cons text (by simp [op.isLiteralChar_symbol]) rest

theorem literals_run (hne : run ≠ []) (h : ∀ c ∈ run, Token.isLiteralChar c) : literals run = [run] := by
  rw [literals, List.splitOnP_eq_singleton (by simpa using h)]
  simpa using hne

theorem Lexeme.IsCut.literals_eq (h : IsCut text ls) : literals text = ls.filterMap run? := by
  obtain ⟨rfl, hr, hs⟩ := h
  induction ls with
  | nil => rfl
  | cons lexeme rest ih =>
      have hrest := ih (fun run hm => hr run (by simp [hm])) hs.tail
      cases lexeme with
      | operator op =>
          rw [List.flatMap_cons, filterMap_run?_operator, ← hrest]
          exact literals_append_symbol [] op _
      | run run =>
          obtain ⟨hne, hc⟩ := hr run (by simp)
          rw [List.flatMap_cons, filterMap_run?_run, ← hrest, Lexeme.text]
          cases rest with
          | nil =>
              rw [List.flatMap_nil, List.append_nil, literals_run hne hc]
              rfl
          | cons next rest => cases next with
              | run next => cases hs with
                  | cons_cons hab _ => simp [Separate] at hab
              | operator op =>
                  have hnext := literals_append_symbol [] op (rest.flatMap Lexeme.text)
                  rw [List.flatMap_cons, Lexeme.text, List.singleton_append, literals_append_symbol, literals_run hne hc]
                  exact congrArg (run :: ·) hnext.symm

theorem runs_eq_literals (h : ∀ c ∈ text, isLegal c) : runs text = literals text := (lexemes_isCut h).literals_eq.symm

/-! ## Tokens -/

/-- A character is an operator or belongs to a run. -/
theorem length_eq_countP (h : ∀ run, .run run ∈ ls → ∀ c ∈ run, Token.isLiteralChar c) :
    ls.length = (ls.flatMap Lexeme.text).countP isSymbol + (ls.filterMap Lexeme.run?).length := by
  induction ls with
  | nil => rfl
  | cons lexeme rest ih =>
      have hrest := ih fun run hm => h run (by simp [hm])
      rw [List.length_cons, hrest, List.flatMap_cons, List.countP_append]
      cases lexeme with
      | operator op =>
          rw [Lexeme.text, List.countP_singleton, if_pos (isSymbol_symbol op), Lexeme.filterMap_run?_operator]
          omega
      | run run =>
          have hnone : run.countP isSymbol = 0 :=
            List.countP_eq_zero.mpr fun c hc => not_isSymbol_of_isLiteralChar (h run (by simp) c hc)
          rw [Lexeme.text, hnone, Lexeme.filterMap_run?_run, List.length_cons]
          omega

variable {s : String} {tokens : List Token} {e : EvalError}

theorem length_of_tokenize (h : tokenize s = .ok tokens) :
    tokens.length = s.toList.countP isSymbol + (literals s.toList).length := by
  have hlegal := legal_of_tokenize h
  have hcut := lexemes_isCut hlegal
  rw [tokenize_of_legal hlegal] at h
  have hlength := congrArg List.length (map_isNumber_of_mapM_read h)
  rw [List.length_map, List.length_map] at hlength
  rw [hlength, hcut.literals_eq, length_eq_countP fun run hr => (hcut.runs run hr).2, hcut.joined]

/-! ## Faults -/

theorem fault?_of_tokenize (h : tokenize s = .ok tokens) : ∀ literal ∈ literals s.toList, Literal.fault? literal = none := by
  have hlegal := legal_of_tokenize h
  rw [tokenize_of_legal hlegal] at h
  rw [← runs_eq_literals hlegal, ← List.findSome?_eq_none_iff]
  cases hf : (runs s.toList).findSome? Literal.fault? with
  | none => rfl
  | some e =>
      rw [mapM_read_eq_error.mpr hf] at h
      cases h

theorem exists_fault_of_tokenize (h : tokenize s = .error e) :
    (∃ c i, e = .illegalCharacter c i) ∨ ∃ literal ∈ literals s.toList, Literal.fault? literal = some e := by
  by_cases hlegal : ∀ c ∈ s.toList, isLegal c
  · rw [← runs_eq_literals hlegal]
    exact tokenize_eq_error h
  · obtain ⟨c, i, hc⟩ := tokenize_illegalCharacter_iff.mpr (by simpa using hlegal)
    rw [h] at hc
    exact .inl ⟨c, i, Except.error.inj hc⟩

end Calculator
