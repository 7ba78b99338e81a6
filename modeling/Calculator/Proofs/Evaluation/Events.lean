import Calculator.Proofs.Chain.FirstFault
import Calculator.Proofs.Evaluation.Basic
import Calculator.Proofs.Token.Count
import Calculator.Proofs.Token.Preview

/-!
# What an evaluation reports

A text that is scanned is reported with the number of its tokens, and an error with its message and its kind. Whether an
error comes of the text itself or of its tokens can be seen from which events there are.
-/

namespace Calculator

/-! ## Kinds of errors -/

namespace EvalError

inductive IsOfKind : EvalError → ErrorKind → Prop
  | illegalCharacter (c : Char) (position : Nat) : IsOfKind (.illegalCharacter c position) .illegalCharacter
  | divisionByZero : IsOfKind .divisionByZero .divisionByZero
  | malformed (m : Malformation) : IsOfKind (.malformed m) .malformed
  | outOfRange : IsOfKind .outOfRange .outOfRange

/-- An illegal character, or what is wrong with a literal of the text. -/
def IsLexical (text : List Char) (e : EvalError) : Prop :=
  e.IsOfKind .illegalCharacter ∨ ∃ literal ∈ literals text, Literal.fault? literal = some e

/-- An error in the order of the tokens, or one of the arithmetic, which is that of no literal. -/
def IsReductive (text : List Char) (e : EvalError) : Prop :=
  (∃ m, e = .malformed m ∧ ∀ literal, m ≠ .badLiteral literal) ∨
    e.IsArithmetic ∧ ∀ literal ∈ literals text, Literal.fault? literal = none

variable {text : List Char} {e : EvalError} {kind : ErrorKind}

theorem isOfKind_iff : e.IsOfKind kind ↔ e.kind = kind := by
  constructor
  · rintro (_ | _ | _ | _) <;> rfl
  · rintro rfl
    cases e <;> constructor

theorem not_isLexical_of_isReductive (h : e.IsReductive text) : ¬e.IsLexical text := by
  rintro (hk | ⟨literal, hl, hf⟩)
  · rcases h with ⟨m, rfl, _⟩ | ⟨rfl | rfl, _⟩ <;> cases hk
  · rcases h with ⟨m, rfl, hm⟩ | ⟨_, hnone⟩
    · rcases Literal.eq_of_fault? hf with he | he
      · cases he
      · exact hm _ (EvalError.malformed.inj he)
    · rw [hnone literal hl] at hf
      cases hf

end EvalError

variable {s : String} {tokens : List Token} {v : Double} {e : EvalError}

theorem isLexical_of_tokenize (h : tokenize s = .error e) : e.IsLexical s.toList := by
  rcases exists_fault_of_tokenize h with ⟨c, i, rfl⟩ | hf
  · exact .inl (.illegalCharacter c i)
  · exact .inr hf

theorem isReductive_of_reduce (ht : tokenize s = .ok tokens) (hr : reduce tokens = .error e) :
    e.IsReductive s.toList := by
  rcases reduce_eq_error hr with ⟨m, hm, rfl⟩ | ⟨_, he⟩
  · refine .inl ⟨m, rfl, ?_⟩
    rintro literal rfl
    cases isFirstFault_iff.mpr hm
  · exact .inr ⟨he, fault?_of_tokenize ht⟩

theorem calculate_eq_error :
    calculate s = .error e ↔ tokenize s = .error e ∨ ∃ tokens, tokenize s = .ok tokens ∧ reduce tokens = .error e := by
  rw [calculate_eq]
  exact Outcome.bind_eq_error

/-- An error shows how far the evaluation came. -/
theorem isReductive_iff (h : calculate s = .error e) :
    (e.IsReductive s.toList ↔ ∃ tokens, tokenize s = .ok tokens) ∧
      (e.IsLexical s.toList ↔ ¬∃ tokens, tokenize s = .ok tokens) := by
  rcases calculate_eq_error.mp h with ht | ⟨tokens, ht, hr⟩
  · have he := isLexical_of_tokenize ht
    have hnot : ¬e.IsReductive s.toList := fun h => EvalError.not_isLexical_of_isReductive h he
    simp [ht, he, hnot]
  · have he := isReductive_of_reduce ht hr
    have hnot := EvalError.not_isLexical_of_isReductive he
    simp [ht, he, hnot]

/-! ## Events -/

theorem Logged.exists_opening (s : String) :
    ∃ opening : Option Event, (Logged.calculate s).events = opening.toList ∧
      ∀ event, opening = some event ↔ ∃ tokens, tokenize s = .ok tokens ∧ event = .evaluation s tokens.length := by
  unfold calculate
  cases tokenize s with
  | error e => exact ⟨none, rfl, by simp⟩
  | ok tokens => exact ⟨some (.evaluation s tokens.length), rfl, by simp [eq_comm]⟩

theorem Logged.exists_closing (s : String) :
    ∃ closing : Option Event, (Logged.evaluate s).events = (Logged.calculate s).events ++ closing.toList ∧
      ∀ event, closing = some event ↔ ∃ e, Calculator.calculate s = .error e ∧ event = .failure s e := by
  unfold evaluate Calculator.calculate
  cases Logged.calculate s with
  | mk outcome events => cases outcome with
      | ok v => exact ⟨none, rfl, by simp⟩
      | error e => exact ⟨some (.failure s e), rfl, by simp [eq_comm]⟩

theorem length_splitOn_preview (ht : tokenize s = .ok tokens) (hs : s ≠ "") :
    tokens.length = ((Token.join " " tokens).toList.splitOn ' ').length := by
  have hne : tokens ≠ [] := by
    rintro rfl
    rw [tokenize_of_legal (legal_of_tokenize ht)] at ht
    have hjoined := flatMap_lexemes s.toList
    rw [eq_nil_of_mapM_read ht] at hjoined
    exact hs (String.toList_eq_nil_iff.mp hjoined.symm)
  rw [Token.splitOn_join hne, List.length_map]

/-- What is reported of a text tells how its evaluation went. There is an event for the text if it is scanned, and behind it
one for the error if there is an error. The first counts the operators and literals of the text. The second has the message
and the kind of the error, which is one of the text itself just when the first is missing. -/
theorem events_tell_outcome (s : String) :
    ∃ opening closing : Option Event,
      (Logged.evaluate s).events = opening.toList ++ closing.toList ∧
      (opening.isSome ↔ ∃ tokens, tokenize s = .ok tokens) ∧
      (closing.isSome ↔ ∃ m, evaluate s = .error m) ∧
      1 ≤ (Logged.evaluate s).events.length ∧ (Logged.evaluate s).events.length ≤ 2 ∧
      (∀ event ∈ opening, ∃ tokens,
        tokenize s = .ok tokens ∧ event = .evaluation s tokens.length ∧ event.message = "évaluation" ∧ event.kind? = none ∧
        tokens.length = s.toList.countP isSymbol + (literals s.toList).length ∧
        (s ≠ "" → tokens.length = ((Token.join " " tokens).toList.splitOn ' ').length)) ∧
      ∀ event ∈ closing, ∃ e,
        calculate s = .error e ∧ event = .failure s e ∧
        evaluate s = .error e.message ∧ event.message = "échec: " ++ e.message ∧
        (∀ kind, event.kind? = some kind ↔ e.IsOfKind kind) ∧
        (opening.isNone ↔ e.IsLexical s.toList) ∧ (opening.isSome ↔ e.IsReductive s.toList) := by
  obtain ⟨opening, hcalculate, hopening⟩ := Logged.exists_opening s
  obtain ⟨closing, hevaluate, hclosing⟩ := Logged.exists_closing s
  have hscanned : opening.isSome ↔ ∃ tokens, tokenize s = .ok tokens := by
    simp [Option.isSome_iff_exists, hopening]
  have hfailed : closing.isSome ↔ ∃ m, evaluate s = .error m := by
    simp [Option.isSome_iff_exists, hclosing, evaluate_eq_error]
  have hreported : opening.isSome ∨ closing.isSome := by
    rw [hscanned, hfailed]
    cases ht : tokenize s with
    | ok tokens => exact .inl ⟨tokens, rfl⟩
    | error e => exact .inr ⟨e.message, evaluate_eq_error.mpr ⟨e, calculate_eq_error.mpr (.inl ht), rfl⟩⟩
  have hlength : 1 ≤ (Logged.evaluate s).events.length ∧ (Logged.evaluate s).events.length ≤ 2 := by
    rw [hevaluate, hcalculate]
    cases opening <;> cases closing <;> simp at hreported ⊢
  rw [hcalculate] at hevaluate
  refine ⟨opening, closing, hevaluate, hscanned, hfailed, hlength.1, hlength.2, ?_, ?_⟩
  · intro event h
    obtain ⟨tokens, ht, rfl⟩ := (hopening event).mp h
    exact ⟨tokens, ht, rfl, rfl, rfl, length_of_tokenize ht, length_splitOn_preview ht⟩
  · intro event h
    obtain ⟨e, he, rfl⟩ := (hclosing event).mp h
    obtain ⟨hreductive, hlexical⟩ := isReductive_iff he
    refine ⟨e, he, rfl, evaluate_eq_error.mpr ⟨e, he, rfl⟩, rfl, fun kind => ?_, ?_, ?_⟩
    · rw [EvalError.isOfKind_iff]
      exact Option.some_inj
    · rw [hlexical, ← hscanned]
      simp
    · rw [hreductive, hscanned]

theorem events_tell_outcome_of_division_by_zero :
    let s := "12*.5/0"
    let tokens : List Token :=
      [.number (.ofRatio 12 1), .operator .times, .number (.ofRatio 1 2), .operator .divide, .number 0]
    tokenize s = .ok tokens ∧ (Logged.evaluate s).events = [.evaluation s tokens.length, .failure s .divisionByZero] ∧
      tokens.length = s.toList.countP isSymbol + (literals s.toList).length ∧
      tokens.length = ((Token.join " " tokens).toList.splitOn ' ').length ∧
      (Event.failure s .divisionByZero).kind? = some .divisionByZero ∧ EvalError.divisionByZero.IsReductive s.toList := by
  intro s tokens
  have htokens : tokenize s = .ok tokens := by decide +kernel
  have hcalculate : calculate s = .error .divisionByZero := by decide +kernel
  obtain ⟨opening, closing, hevents, hscanned, hfailed, _, _, hopening, hclosing⟩ := events_tell_outcome s
  obtain ⟨first, rfl⟩ := Option.isSome_iff_exists.mp (hscanned.mpr ⟨tokens, htokens⟩)
  obtain ⟨second, rfl⟩ := Option.isSome_iff_exists.mp (hfailed.mpr ⟨_, evaluate_eq_error.mpr ⟨_, hcalculate, rfl⟩⟩)
  obtain ⟨tokens', ht, rfl, _, _, hcount, hpreview⟩ := hopening first rfl
  obtain ⟨e, he, rfl, _, _, hkind, _, hreductive⟩ := hclosing second rfl
  rw [htokens] at ht
  cases ht
  rw [hcalculate] at he
  cases he
  exact ⟨htokens, hevents, hcount, hpreview (by decide), (hkind _).mpr .divisionByZero, hreductive.mp rfl⟩

end Calculator
