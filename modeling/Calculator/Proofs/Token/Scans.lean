import Calculator.Proofs.Token.Scan

/-!
# What a text is scanned as

The outcome of scanning a text, said without the scan: the first illegal character wherever it stands, else the first
bad literal, else one token for each operator and each run, in their order.
-/

namespace Calculator

/-- The outcome that scanning a text has to give. -/
inductive Scans (text : List Char) : Except EvalError (List Token) → Prop
  | illegal {before after : List Char} {c : Char} (ht : text = before ++ c :: after)
      (hb : ∀ d ∈ before, isLegal d) (hc : ¬isLegal c) :
      Scans text (.error (.illegalCharacter c before.length))
  | badLiteral {before after : List Lexeme} {run : List Char} (hcut : Lexeme.IsCut text (before ++ .run run :: after))
      (hb : ∀ r, .run r ∈ before → Literal.IsReadable r) (hr : ¬Literal.isNumber run) :
      Scans text (.error (.malformed (.badLiteral (String.ofList run))))
  | outOfRange {before after : List Lexeme} {run : List Char} (hcut : Lexeme.IsCut text (before ++ .run run :: after))
      (hb : ∀ r, .run r ∈ before → Literal.IsReadable r) (hn : Literal.isNumber run)
      (hv : ¬(Literal.value run).isFinite) :
      Scans text (.error .outOfRange)
  | tokens {ls : List Lexeme} (hcut : Lexeme.IsCut text ls) (h : ∀ r, .run r ∈ ls → Literal.IsReadable r) :
      Scans text (.ok (ls.map Lexeme.token))

/-! ## The first of its kind -/

theorem exists_first {α : Type} {p : α → Bool} {xs : List α} (h : ¬∀ x ∈ xs, p x) :
    ∃ before x after, xs = before ++ x :: after ∧ (∀ y ∈ before, p y) ∧ ¬p x := by
  cases hf : xs.find? (!p ·) with
  | none => exact absurd (by simpa using hf) h
  | some x =>
      obtain ⟨hx, before, after, rfl, hb⟩ := List.find?_eq_some_iff_append.mp hf
      exact ⟨before, x, after, rfl, by simpa using hb, by simpa using hx⟩

theorem firstIllegal?_of_first {before after : List Char} {c : Char} (hb : ∀ d ∈ before, isLegal d)
    (hc : ¬isLegal c) : firstIllegal? (before ++ c :: after) = some (c, before.length) := by
  rw [firstIllegal?_append, firstIllegal?_eq_none.mpr hb, firstIllegal?_cons_of_illegal hc]
  rfl

/-! ## Cuts -/

theorem Lexeme.IsCut.legal {text : List Char} {ls : List Lexeme} (h : IsCut text ls) : ∀ c ∈ text, isLegal c := by
  intro c hc
  rw [← h.joined] at hc
  obtain ⟨lexeme, hl, hc⟩ := List.mem_flatMap.mp hc
  cases lexeme with
  | run run => exact isLegal_of_isLiteralChar ((h.runs run hl).2 c hc)
  | operator op =>
      rw [Lexeme.text, List.mem_singleton] at hc
      exact hc ▸ isLegal_symbol op

theorem Lexeme.IsCut.tokenize_eq {s : String} {ls : List Lexeme} (h : IsCut s.toList ls) :
    tokenize s = ls.mapM Lexeme.read := by
  rw [tokenize_of_legal h.legal, h.lexemes_eq]

theorem mapM_read_of_first {before after : List Lexeme} {run : List Char} {e : EvalError}
    (hb : ∀ r, .run r ∈ before → Literal.IsReadable r) (hf : Literal.fault? run = some e) :
    (before ++ .run run :: after).mapM Lexeme.read = .error e := by
  apply Outcome.mapM_eq_error_of_first
  · intro lexeme hl
    exact ⟨lexeme.token, Lexeme.read_of_readable fun r hr => hb r (hr ▸ hl)⟩
  · rw [Lexeme.read, hf]

/-! ## Scanning -/

theorem tokenize_of_scans {s : String} {outcome : Except EvalError (List Token)} (h : Scans s.toList outcome) :
    tokenize s = outcome := by
  cases h with
  | illegal ht hb hc => rw [tokenize_eq, ht, firstIllegal?_of_first hb hc]
  | badLiteral hcut hb hr =>
      rw [hcut.tokenize_eq]
      exact mapM_read_of_first hb (by rw [Literal.fault?, if_neg hr])
  | outOfRange hcut hb hn hv =>
      rw [hcut.tokenize_eq]
      exact mapM_read_of_first hb (by rw [Literal.fault?, if_pos hn, if_neg hv])
  | tokens hcut h =>
      rw [hcut.tokenize_eq]
      exact mapM_read_of_readable h

theorem exists_scans (text : List Char) : ∃ outcome, Scans text outcome := by
  by_cases hl : ∀ c ∈ text, isLegal c
  · have hcut := lexemes_isCut hl
    by_cases hr : ∀ lexeme ∈ lexemes text, lexeme.run?.all (Literal.fault? · = none)
    · exact ⟨_, .tokens hcut fun r hm => Literal.fault?_eq_none.mp (by simpa [Lexeme.run?] using hr _ hm)⟩
    · obtain ⟨before, lexeme, after, hs, hb, hf⟩ := exists_first hr
      have hb' : ∀ r, .run r ∈ before → Literal.IsReadable r := fun r hm =>
        Literal.fault?_eq_none.mp (by simpa [Lexeme.run?] using hb _ hm)
      rw [hs] at hcut
      cases lexeme with
      | operator op => exact absurd rfl hf
      | run run =>
          by_cases hn : Literal.isNumber run
          · refine ⟨_, .outOfRange hcut hb' hn fun hv => hf ?_⟩
            simpa [Lexeme.run?] using Literal.fault?_eq_none.mpr ⟨hn, hv⟩
          · exact ⟨_, .badLiteral hcut hb' hn⟩
  · obtain ⟨before, c, after, rfl, hb, hc⟩ := exists_first hl
    exact ⟨_, .illegal rfl hb hc⟩

/-- Scanning a text has the one outcome that the text has to give. -/
theorem tokenize_eq_iff_scans (s : String) (outcome : Except EvalError (List Token)) :
    tokenize s = outcome ↔ Scans s.toList outcome := by
  refine ⟨fun h => ?_, tokenize_of_scans⟩
  obtain ⟨outcome', ho⟩ := exists_scans s.toList
  rw [← h, tokenize_of_scans ho]
  exact ho

end Calculator
