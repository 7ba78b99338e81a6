import Calculator.Proofs.Token.Scan

/-!
# Texts joined by an operator

Two texts with an operator between them are scanned each on its own, and their outcomes joined. An illegal character of
either text still comes before all bad literals, at its place in the whole text.
-/

namespace Calculator

/-- The outcome of two texts with an operator between them, from the outcome of each. The right text begins at an
offset. -/
def joinOutcomes (op : Operator) (offset : Nat) :
    Except EvalError (List Token) → Except EvalError (List Token) → Except EvalError (List Token)
  | .error (.illegalCharacter c i), _ => .error (.illegalCharacter c i)
  | _, .error (.illegalCharacter c i) => .error (.illegalCharacter c (offset + i))
  | .error e, _ => .error e
  | .ok _, .error e => .error e
  | .ok left, .ok right => .ok (left ++ .operator op :: right)

variable {op : Operator} {offset : Nat}

theorem joinOutcomes_illegalCharacter {left : Except EvalError (List Token)} {c : Char} {i : Nat}
    (h : ∀ d j, left ≠ .error (.illegalCharacter d j)) :
    joinOutcomes op offset left (.error (.illegalCharacter c i)) = .error (.illegalCharacter c (offset + i)) := by
  cases left with
  | ok tokens => rfl
  | error e => cases e with
      | illegalCharacter d j => exact absurd rfl (h d j)
      | divisionByZero => rfl
      | malformed m => rfl
      | outOfRange => rfl

/-! ## Illegal characters -/

theorem firstIllegal?_append_symbol (text : List Char) (op : Operator) (rest : List Char) :
    firstIllegal? (text ++ op.symbol :: rest) =
      (firstIllegal? text).or ((firstIllegal? rest).map fun x => (x.1, text.length + 1 + x.2)) := by
  have hsymbol : firstIllegal? [op.symbol] = none := firstIllegal?_eq_none.mpr (by simp [isLegal_symbol])
  have hfront : firstIllegal? (text ++ [op.symbol]) = firstIllegal? text := by
    rw [firstIllegal?_append, hsymbol, Option.map_none, Option.or_none]
  rw [← List.singleton_append, ← List.append_assoc, firstIllegal?_append, hfront, List.length_append]
  rfl

/-! ## Lexemes -/

theorem mapM_read_append_operator (op : Operator) (offset : Nat) (ls rest : List Lexeme) :
    (ls ++ .operator op :: rest).mapM Lexeme.read =
      joinOutcomes op offset (ls.mapM Lexeme.read) (rest.mapM Lexeme.read) := by
  have hread : (Lexeme.operator op).read = .ok (.operator op) := rfl
  simp only [List.mapM_append, List.mapM_cons, hread, Outcome.ok_bind, Outcome.pure_eq]
  cases hl : ls.mapM Lexeme.read with
  | ok left => cases hr : rest.mapM Lexeme.read with
      | ok right => rfl
      | error e => rcases eq_of_mapM_read_error hr with rfl | ⟨_, rfl⟩ <;> rfl
  | error e =>
      have he := eq_of_mapM_read_error hl
      cases hr : rest.mapM Lexeme.read with
      | ok right => rcases he with rfl | ⟨_, rfl⟩ <;> rfl
      -- Of two bad literals the left one counts.
      | error e' => rcases he with rfl | ⟨_, rfl⟩ <;> rcases eq_of_mapM_read_error hr with rfl | ⟨_, rfl⟩ <;> rfl

/-- A text is scanned on either side of an operator as if it stood alone. -/
theorem tokenize_joined (s t : String) (op : Operator) :
    tokenize (s ++ String.singleton op.symbol ++ t) = joinOutcomes op (s.length + 1) (tokenize s) (tokenize t) ∧
      ∀ u, (∃ c i, tokenize u = .error (.illegalCharacter c i)) ↔ ∃ c ∈ u.toList, ¬isLegal c := by
  refine ⟨?_, fun u => tokenize_illegalCharacter_iff⟩
  have htext : (s ++ String.singleton op.symbol ++ t).toList = s.toList ++ op.symbol :: t.toList := by simp
  rw [tokenize_eq, htext, firstIllegal?_append_symbol, lexemes_append_symbol, String.length_toList]
  cases hs : firstIllegal? s.toList with
  | some x =>
      rw [tokenize_eq s, hs]
      rfl
  | none =>
      have hlegal := firstIllegal?_eq_none.mp hs
      cases ht : firstIllegal? t.toList with
      | some y =>
          rw [tokenize_eq t, ht]
          exact (joinOutcomes_illegalCharacter (tokenize_ne_illegalCharacter hlegal)).symm
      | none =>
          rw [tokenize_of_legal hlegal, tokenize_of_legal (firstIllegal?_eq_none.mp ht)]
          exact mapM_read_append_operator op _ _ _

end Calculator
