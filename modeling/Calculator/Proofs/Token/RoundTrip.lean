import Calculator.Proofs.Double.Text
import Calculator.Proofs.Token.Scan

/-!
# Tokens written and scanned again

A list of tokens written without a separator is scanned as the same list just when it could come of a text at all:
when no two numbers are side by side, and each number is finite and has no sign.
-/

namespace Calculator

namespace Token

/-- Numbers that a literal can stand for, and none beside another. -/
def IsScannable (tokens : List Token) : Prop :=
  NoAdjacentNumbers tokens ∧ ∀ value, number value ∈ tokens → value.isFinite ∧ value.isNegative = false

variable {tokens : List Token}

/-! ## Scanned tokens -/

theorem unsigned_of_mapM_read {ls : List Lexeme} (h : ls.mapM Lexeme.read = .ok tokens) :
    ∀ value, number value ∈ tokens → value.isFinite ∧ value.isNegative = false := by
  induction tokens generalizing ls with
  | nil => intro value hv; cases hv
  | cons token tokens ih =>
      intro value hv
      cases token with
      | operator op =>
          obtain ⟨rest, _, hr⟩ := eq_operator_cons_of_mapM_read h
          exact ih hr value (by simpa using hv)
      | number value' =>
          obtain ⟨text, rest, rfl, hf, rfl, hr⟩ := eq_run_cons_of_mapM_read h
          rcases List.mem_cons.mp hv with hv | hv
          · cases hv
            exact ⟨(Literal.fault?_eq_none.mp hf).2, Literal.isNegative_value text⟩
          · exact ih hr value hv

theorem isScannable_of_tokenize {s : String} (h : tokenize s = .ok tokens) : IsScannable tokens := by
  refine ⟨noAdjacentNumbers_of_tokenize h, ?_⟩
  rw [tokenize_of_legal (legal_of_tokenize h)] at h
  exact unsigned_of_mapM_read h

/-! ## Written tokens -/

theorem toList_join (tokens : List Token) : (join "" tokens).toList = tokens.flatMap (·.text.toList) := by
  induction tokens with
  | nil => rfl
  | cons token rest ih =>
      cases rest with
      | nil => simp [join]
      | cons token' rest =>
          rw [List.flatMap_cons, ← ih]
          simp [join, String.intercalate_cons_cons]

def lexeme : Token → Lexeme
  | number value => .run value.text.toList
  | operator op => .operator op

theorem isCut_map_lexeme (h : IsScannable tokens) :
    Lexeme.IsCut (tokens.flatMap (·.text.toList)) (tokens.map lexeme) where
  joined := by
    rw [List.flatMap_map]
    congr 1
    funext token
    cases token with
    | number value => rfl
    | operator op => simp [lexeme, Lexeme.text, text]
  runs := by
    intro run hm
    obtain ⟨token, ht, he⟩ := List.mem_map.mp hm
    cases token with
    | operator op => cases he
    | number value =>
        cases he
        obtain ⟨hv, hs⟩ := h.2 value ht
        obtain ⟨hn, _⟩ := Double.value_text hv hs
        exact ⟨Literal.ne_nil_of_isNumber hn, Literal.isLiteralChar_of_isNumber hn⟩
  longest := by
    rw [List.isChain_map]
    refine h.1.imp fun a b hab => ?_
    cases a <;> cases b <;> simp_all [Lexeme.Separate, lexeme, isNumber]

theorem read_lexeme (h : ∀ value, number value ∈ tokens → value.isFinite ∧ value.isNegative = false) :
    (tokens.map lexeme).mapM Lexeme.read = .ok tokens := by
  induction tokens with
  | nil => rfl
  | cons token rest ih =>
      have hrest := ih fun value hv => h value (by simp [hv])
      cases token with
      | operator op => simp [lexeme, Lexeme.read, hrest]
      | number value =>
          obtain ⟨hv, hs⟩ := h value (by simp)
          obtain ⟨hn, he⟩ := Double.value_text hv hs
          have hread : Lexeme.read (.run value.text.toList) = .ok (number value) := by
            simp [Lexeme.read, Literal.fault?, hn, he, hv]
          simp [lexeme, hread, hrest]

theorem legal_flatMap_text (h : IsScannable tokens) : ∀ c ∈ tokens.flatMap (·.text.toList), isLegal c := by
  intro c hc
  obtain ⟨token, ht, hc⟩ := List.mem_flatMap.mp hc
  cases token with
  | operator op =>
      simp only [text, String.toList_singleton, List.mem_singleton] at hc
      exact hc ▸ isLegal_symbol op
  | number value =>
      obtain ⟨hv, hs⟩ := h.2 value ht
      exact isLegal_of_isLiteralChar (Literal.isLiteralChar_of_isNumber (Double.value_text hv hs).1 c hc)

theorem tokenize_join (h : IsScannable tokens) : tokenize (join "" tokens) = .ok tokens := by
  rw [tokenize_of_legal, toList_join, (isCut_map_lexeme h).lexemes_eq, read_lexeme h.2]
  rw [toList_join]
  exact legal_flatMap_text h

end Token

/-- The lists of tokens that texts are scanned as are those that come back when they are written, and those of
numbers with no sign and no neighbour. -/
theorem tokenize_join_iff (tokens : List Token) :
    ((∃ s, tokenize s = .ok tokens) ↔ tokenize (Token.join "" tokens) = .ok tokens) ∧
    (tokenize (Token.join "" tokens) = .ok tokens ↔
      Token.NoAdjacentNumbers tokens ∧
        ∀ value, .number value ∈ tokens → value.isFinite ∧ value.isNegative = false) ∧
    ∀ s, tokenize s = .ok tokens → tokenize (Token.join "" tokens) = .ok tokens := by
  refine ⟨⟨?_, fun h => ⟨_, h⟩⟩, ⟨Token.isScannable_of_tokenize, Token.tokenize_join⟩, ?_⟩
  · rintro ⟨s, h⟩
    exact Token.tokenize_join (Token.isScannable_of_tokenize h)
  · intro s h
    exact Token.tokenize_join (Token.isScannable_of_tokenize h)

end Calculator
