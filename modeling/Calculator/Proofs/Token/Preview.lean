import Calculator.Proofs.Double.PlainText
import Calculator.Proofs.Token.RoundTrip

/-!
# Tokens spaced out

No token is written with a space, and each in a way of its own. So a line of tokens with spaces between them can be cut
again into the tokens, and the spaces can be taken out: what is left is scanned as the tokens, if they come of a text.
-/

namespace Calculator

namespace Text

def withoutSpaces (s : String) : String := String.ofList (s.toList.filter (· ≠ ' '))

end Text

namespace Token

variable {a b : Token} {tokens more : List Token}

/-! ## Words -/

theorem isWord_text (token : Token) : token.text.toList ≠ [] ∧ ' ' ∉ token.text.toList := by
  cases token with
  | number value => exact Double.isWord_text value
  | operator op =>
      rw [text, String.toList_singleton]
      cases op with
      | plus => decide
      | minus => decide
      | times => decide
      | divide => decide

/-- A sign alone is no number. -/
theorem text_ne_symbol (value : Double) (op : Operator) : value.text ≠ String.singleton op.symbol := by
  intro h
  have hsymbol : Double.ofText? [op.symbol] = none := by cases op <;> rfl
  have hread := Double.ofText?_text_eq value
  rw [h, String.toList_singleton, hsymbol] at hread
  have hnonfinite : ∀ x ∈ Double.nonfinite, x.text.toList ≠ [op.symbol] := by cases op <;> decide
  by_cases hv : value.isFinite
  · rw [if_pos hv] at hread
    cases hread
  · exact hnonfinite value (Double.mem_nonfinite hv) (by rw [h, String.toList_singleton])

theorem text_inj (h : a.text = b.text) : a = b := by
  cases a with
  | number x => cases b with
      | number y => rw [Double.text_inj h]
      | operator op => exact absurd h (text_ne_symbol x op)
  | operator op => cases b with
      | number y => exact absurd h.symm (text_ne_symbol y op)
      | operator op' =>
          have hsymbol : op.symbol = op'.symbol := by
            have hlist := congrArg String.toList h
            rw [text, text, String.toList_singleton, String.toList_singleton] at hlist
            exact List.singleton_inj.mp hlist
          have hop := Operator.ofSymbol?_symbol op
          rw [hsymbol, Operator.ofSymbol?_symbol] at hop
          rw [Option.some.inj hop]

/-! ## Lines -/

theorem toList_join_spaces (tokens : List Token) :
    (join " " tokens).toList = [' '].intercalate (tokens.map fun token => token.text.toList) := by
  rw [join, String.toList_intercalate, List.map_map]
  rfl

theorem splitOn_join (h : tokens ≠ []) :
    (join " " tokens).toList.splitOn ' ' = tokens.map fun token => token.text.toList := by
  rw [toList_join_spaces, List.splitOn_intercalate ' ' _ (by simpa using h)]
  intro word hw
  obtain ⟨token, _, rfl⟩ := List.mem_map.mp hw
  exact token.isWord_text.2

theorem filter_join (tokens : List Token) :
    (join " " tokens).toList.filter (· ≠ ' ') = tokens.flatMap (·.text.toList) := by
  have hself (token : Token) :
      token.text.toList.filter (fun c => decide (c ≠ ' ')) = token.text.toList := by
    refine List.filter_eq_self.mpr fun c hc => decide_eq_true fun he => token.isWord_text.2 (he ▸ hc)
  rw [toList_join_spaces]
  induction tokens with
  | nil => rfl
  | cons token rest ih =>
      cases rest with
      | nil => simpa using hself token
      | cons next rest =>
          rw [List.map_cons, List.map_cons, List.intercalate_cons_cons, List.append_assoc, List.filter_append,
            List.singleton_append, List.filter_cons_of_neg (by decide), hself, List.flatMap_cons]
          exact congrArg (token.text.toList ++ ·) ih

theorem join_ne_empty (h : tokens ≠ []) : join " " tokens ≠ "" := by
  intro he
  obtain ⟨token, rest, rfl⟩ := List.exists_cons_of_ne_nil h
  have hfilter := filter_join (token :: rest)
  rw [he, List.flatMap_cons] at hfilter
  exact token.isWord_text.1 (List.append_eq_nil_iff.mp hfilter.symm).1

theorem join_inj (h : join " " tokens = join " " more) : tokens = more := by
  cases tokens with
  | nil => cases more with
      | nil => rfl
      | cons token rest => exact absurd h.symm (join_ne_empty (List.cons_ne_nil token rest))
  | cons token rest => cases more with
      | nil => exact absurd h (join_ne_empty (List.cons_ne_nil token rest))
      | cons token' rest' =>
          have hwords := splitOn_join (List.cons_ne_nil token rest)
          rw [h, splitOn_join (List.cons_ne_nil token' rest')] at hwords
          have hinj : Function.Injective fun token : Token => token.text.toList :=
            fun _ _ he => text_inj (String.toList_inj.mp he)
          exact (List.map_injective_iff.mpr hinj hwords).symm

theorem tokenize_withoutSpaces_join (h : IsScannable tokens) :
    tokenize (Text.withoutSpaces (join " " tokens)) = .ok tokens := by
  rw [Text.withoutSpaces, filter_join, ← toList_join, String.ofList_toList]
  exact tokenize_join h

end Token

/-- Lists of tokens of any shape that are shown alike are the same list, with their numbers to the last bit: only what is
not a number is one value, whatever its bits. Without its spaces, the line of the tokens of a text is scanned as them
again. -/
theorem preview_determines_tokens :
    (∀ a b : List Token, Token.join " " a = Token.join " " b ↔ a = b) ∧
      ∀ s tokens, tokenize s = .ok tokens →
        tokenize (Text.withoutSpaces (Token.join " " tokens)) = .ok tokens := by
  refine ⟨fun a b => ⟨Token.join_inj, fun h => h ▸ rfl⟩, ?_⟩
  intro s tokens h
  exact Token.tokenize_withoutSpaces_join (Token.isScannable_of_tokenize h)

theorem preview_determines_tokens_behind_minus :
    let subtracted : List Token := [.operator .minus, .number (.ofRatio 1 2)]
    let negative : List Token := [.number (-.ofRatio 1 2)]
    Token.join " " subtracted ≠ Token.join " " negative ∧ tokenize "-.5" = .ok subtracted ∧
      tokenize (Text.withoutSpaces (Token.join " " subtracted)) = .ok subtracted := by
  intro subtracted negative
  obtain ⟨hsame, hscanned⟩ := preview_determines_tokens
  have ht : tokenize "-.5" = .ok subtracted := by decide +kernel
  exact ⟨fun h => absurd ((hsame _ _).mp h) (by decide), ht, hscanned "-.5" _ ht⟩

end Calculator
