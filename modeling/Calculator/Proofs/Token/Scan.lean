import Calculator.Proofs.Token.Lexeme

/-!
# What a scan finds

A scan that is under way with a literal held back ends as if the literal stood in front of the rest of the text.
From this the tokens of a text are those of its lexemes.
-/

namespace Calculator

namespace Scan

/-- How a scan ends that has only these lexemes before it. A fault met earlier is kept. -/
def finish (scan : Scan) (ls : List Lexeme) : Except EvalError (List Token) :=
  match scan.fault with
  | some e => .error e
  | none => do
    let tokens ← ls.mapM Lexeme.read
    return scan.tokens.toList ++ tokens

def readOperator (op : Operator) (scan : Scan) : Scan :=
  { scan.endLiteral with tokens := scan.endLiteral.tokens.push (.operator op) }

variable {scan : Scan} {c : Char} {position : Nat}

/-! ## Steps -/

theorem step_literal (h : Token.isLiteralChar c) :
    scan.step (c, position) = .ok { scan with literal := scan.literal.push c } := by
  simp only [step, h, ↓reduceIte]

theorem step_operator {op : Operator} (h : Operator.ofSymbol? c = some op) (hc : ¬Token.isLiteralChar c) :
    scan.step (c, position) = .ok (scan.readOperator op) := by
  simp only [step, h, hc]
  rfl

theorem step_illegal (h : ¬isLegal c) : scan.step (c, position) = .error (.illegalCharacter c position) := by
  obtain ⟨hc, ho⟩ := not_or.mp (fun hn => h (isLegal_iff.mpr hn))
  simp only [step, hc, Option.not_isSome_iff_eq_none.mp ho]
  rfl

theorem literal_endLiteral : scan.endLiteral.literal = "" := by
  unfold endLiteral
  split
  · assumption
  · split <;> rfl

theorem literal_readOperator (op : Operator) : (scan.readOperator op).literal = "" := literal_endLiteral

/-! ## Ends -/

/-- Ending the literal is reading it as a lexeme. -/
theorem finish_endLiteral (h : ∀ c ∈ scan.literal.toList, Token.isLiteralChar c) (hne : scan.literal ≠ "")
    (ls : List Lexeme) : scan.endLiteral.finish ls = scan.finish (.run scan.literal.toList :: ls) := by
  have hread := Literal.readLiteral_eq h
  rw [String.ofList_toList] at hread
  obtain ⟨tokens, literal, fault⟩ := scan
  simp only at h hne hread ⊢
  cases fault with
  | some e => cases hf : Literal.fault? literal.toList <;> simp_all [endLiteral, finish]
  | none => cases hf : Literal.fault? literal.toList <;> simp_all [endLiteral, finish, Lexeme.read]

theorem result_eq_finish (h : ∀ c ∈ scan.literal.toList, Token.isLiteralChar c) :
    scan.result = scan.finish (lexemes scan.literal.toList) := by
  have hend : scan.result = scan.endLiteral.finish [] := by
    simp only [result, finish]
    split <;> simp_all
  rw [hend]
  by_cases hne : scan.literal = ""
  · simp [endLiteral, hne, lexemes]
  · rw [finish_endLiteral h hne, lexemes_run (by simpa using hne) h]

theorem finish_push_operator (op : Operator) (ls : List Lexeme) :
    finish { scan with tokens := scan.tokens.push (.operator op) } ls = scan.finish (.operator op :: ls) := by
  simp [finish, Lexeme.read]

/-- An operator ends the literal held back, and the scan starts anew behind both. -/
theorem finish_readOperator (h : ∀ c ∈ scan.literal.toList, Token.isLiteralChar c) (op : Operator)
    (rest : List Char) :
    (scan.readOperator op).finish (lexemes rest) =
      scan.finish (lexemes (scan.literal.toList ++ op.symbol :: rest)) := by
  rw [readOperator, finish_push_operator, lexemes_append_symbol]
  by_cases hne : scan.literal = ""
  · simp [endLiteral, hne, lexemes]
  · rw [finish_endLiteral h hne, lexemes_run (by simpa using hne) h, List.singleton_append]

theorem isLiteralChar_of_mem_push (h : ∀ c ∈ scan.literal.toList, Token.isLiteralChar c)
    (hc : Token.isLiteralChar c) : ∀ x ∈ (scan.literal.push c).toList, Token.isLiteralChar x := by
  intro x hx
  rw [String.toList_push, List.mem_append, List.mem_singleton] at hx
  rcases hx with hx | rfl
  · exact h x hx
  · exact hc

/-! ## Runs of the scan -/

theorem foldlM_step_eq (scan : Scan) (text : List Char) (position : Nat)
    (h : ∀ c ∈ scan.literal.toList, Token.isLiteralChar c) :
    ((text.zipIdx position).foldlM step scan >>= result) =
      match (text.zipIdx position).find? (!isLegal ·.1) with
      | some (c, i) => .error (.illegalCharacter c i)
      | none => scan.finish (lexemes (scan.literal.toList ++ text)) := by
  -- The literal held back is the invariant: it is made of digits and points, and goes in front of the rest.
  induction text generalizing scan position with
  | nil => simpa using result_eq_finish h
  | cons c rest ih =>
      rw [List.zipIdx_cons, List.foldlM_cons]
      by_cases hl : isLegal c
      · rw [List.find?_cons_of_neg (by simp [hl])]
        by_cases hc : Token.isLiteralChar c
        · have hih := @ih { scan with literal := scan.literal.push c } (position + 1)
            (isLiteralChar_of_mem_push h hc)
          rw [String.toList_push, List.append_assoc, List.singleton_append] at hih
          rw [step_literal hc, Outcome.ok_bind, hih]
          rfl
        · obtain ⟨op, ho⟩ := Option.isSome_iff_exists.mp ((isLegal_iff.mp hl).resolve_left hc)
          have hih := @ih (scan.readOperator op) (position + 1) (by simp [literal_readOperator])
          rw [literal_readOperator, String.toList_empty, List.nil_append, finish_readOperator h,
            Operator.symbol_of_ofSymbol? ho] at hih
          rw [step_operator ho hc, Outcome.ok_bind, hih]
      · rw [step_illegal hl, List.find?_cons_of_pos (by simpa using hl)]
        rfl

end Scan

/-- The tokens of a text are those of its lexemes, unless a character is illegal. -/
theorem tokenize_eq (expression : String) :
    tokenize expression =
      match firstIllegal? expression.toList with
      | some (c, i) => .error (.illegalCharacter c i)
      | none => (lexemes expression.toList).mapM Lexeme.read := by
  have h := Scan.foldlM_step_eq {} expression.toList 0 (by simp)
  rw [tokenize, h, firstIllegal?]
  split
  · rfl
  · simp [Scan.finish]

theorem tokenize_of_legal {expression : String} (h : ∀ c ∈ expression.toList, isLegal c) :
    tokenize expression = (lexemes expression.toList).mapM Lexeme.read := by
  rw [tokenize_eq, firstIllegal?_eq_none.mpr h]

theorem legal_of_tokenize {expression : String} {tokens : List Token} (h : tokenize expression = .ok tokens) :
    ∀ c ∈ expression.toList, isLegal c := by
  rw [tokenize_eq] at h
  cases hf : firstIllegal? expression.toList with
  | some x => rw [hf] at h; cases h
  | none => exact firstIllegal?_eq_none.mp hf

theorem tokenize_eq_error {expression : String} {e : EvalError} (h : tokenize expression = .error e) :
    (∃ c i, e = .illegalCharacter c i) ∨ ∃ run ∈ runs expression.toList, Literal.fault? run = some e := by
  rw [tokenize_eq] at h
  split at h
  · cases h
    exact .inl ⟨_, _, rfl⟩
  · exact .inr (List.exists_of_findSome?_eq_some (mapM_read_eq_error.mp h))

theorem tokenize_ne_illegalCharacter {expression : String} (h : ∀ c ∈ expression.toList, isLegal c) (c : Char)
    (i : Nat) : tokenize expression ≠ .error (.illegalCharacter c i) := by
  intro he
  rw [tokenize_of_legal h] at he
  rcases eq_of_mapM_read_error he with he | ⟨_, he⟩ <;> cases he

theorem tokenize_illegalCharacter_iff {expression : String} :
    (∃ c i, tokenize expression = .error (.illegalCharacter c i)) ↔ ∃ c ∈ expression.toList, ¬isLegal c := by
  constructor
  · rintro ⟨c, i, h⟩
    by_contra hn
    exact tokenize_ne_illegalCharacter (by simpa using hn) c i h
  · rintro ⟨c, hc, hn⟩
    cases hi : firstIllegal? expression.toList with
    | some x => exact ⟨x.1, x.2, by rw [tokenize_eq, hi]⟩
    | none => exact absurd (firstIllegal?_eq_none.mp hi c hc) hn

/-- Two numbers side by side would be one literal. -/
theorem noAdjacentNumbers_of_tokenize {expression : String} {tokens : List Token}
    (h : tokenize expression = .ok tokens) : Token.NoAdjacentNumbers tokens := by
  rw [tokenize_of_legal (legal_of_tokenize h)] at h
  have hkinds := map_isNumber_of_mapM_read h
  have hruns : ((lexemes expression.toList).map Lexeme.isRun).IsChain fun a b => ¬(a = true ∧ b = true) :=
    (List.isChain_map Lexeme.isRun).mpr (isChain_lexemes _)
  rw [← hkinds] at hruns
  exact (List.isChain_map Token.isNumber).mp hruns

end Calculator
