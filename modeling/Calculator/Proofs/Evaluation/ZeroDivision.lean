import Calculator.Proofs.Evaluation.Basic
import Calculator.Proofs.Language
import Calculator.Proofs.Token.Scans

/-!
# Divisions by zero

A multiplicative operator has on its right a number of the text and never a computed one, and an additive operator does
not divide. So a division by zero is reported where the text divides by a zero, and nowhere else. The first of those
decides, unless a value before it, within its own term, is out of range.
-/

namespace Calculator

namespace Chain

/-- What the operators give from left to right, with no check. -/
def partials (chain : Chain) : List Double :=
  (chain.links.scanl (fun left link => link.1.compute left link.2) chain.head).tail

/-- What the multiplicative operators give, each within its own term. -/
def products (chain : Chain) : List Double := chain.terms.terms.flatMap partials

def IsZeroDivision (link : Operator × Double) : Prop := link.1 = .divide ∧ link.2.isZero

instance : DecidablePred IsZeroDivision := fun link => inferInstanceAs (Decidable (link.1 = .divide ∧ link.2.isZero))

/-- The links that a chain has before its first division by zero. -/
structure FirstZeroDivision (chain : Chain) (before : List (Operator × Double)) : Prop where
  division : ∃ link after, chain.links = before ++ link :: after ∧ IsZeroDivision link
  first : ∀ link ∈ before, ¬IsZeroDivision link

variable {tier : Tier} {op : Operator} {left right : Double} {link : Operator × Double}
  {links before after : List (Operator × Double)} {chain terms : Chain}

/-! ## Products -/

@[simp] theorem partials_nil (head : Double) : partials ⟨head, []⟩ = [] := rfl

@[simp] theorem partials_cons (left : Double) (op : Operator) (right : Double) (rest : List (Operator × Double)) :
    partials ⟨left, (op, right) :: rest⟩ = op.compute left right :: partials ⟨op.compute left right, rest⟩ := by
  cases rest with
  | nil => simp [partials]
  | cons link rest => simp [partials]

theorem products_cons_of_tier (h : op.tier = .multiplicative) :
    products ⟨left, (op, right) :: links⟩ = op.compute left right :: products ⟨op.compute left right, links⟩ := by
  simp [products, terms, SumOfTerms.terms, run_cons_of_tier h, pieces_cons_of_tier h]

theorem products_cons_of_other (h : op.tier ≠ .multiplicative) :
    products ⟨left, (op, right) :: links⟩ = products ⟨right, links⟩ := by
  simp [products, terms, SumOfTerms.terms, run_cons_of_other h, pieces_cons_of_other h]

/-! ## The multiplicative pass -/

theorem exists_firstZeroDivision (h : ∃ link ∈ chain.links, IsZeroDivision link) :
    ∃ before, chain.FirstZeroDivision before := by
  have hn : ¬∀ link ∈ chain.links, !decide (IsZeroDivision link) := by simpa using h
  obtain ⟨before, link, after, hl, hb, hz⟩ := exists_first hn
  exact ⟨before, ⟨link, after, hl, by simpa using hz⟩, by simpa using hb⟩

/-- The pass goes on to the first division by zero, unless a value before it is not finite. -/
theorem collapseFrom_eq_error (hz : IsZeroDivision link) (hb : ∀ link ∈ before, ¬IsZeroDivision link) :
    collapseFrom .multiplicative left (before ++ link :: after) =
      .error (if ∀ x ∈ products ⟨left, before⟩, x.isFinite then .divisionByZero else .outOfRange) := by
  induction before generalizing left with
  | nil =>
      obtain ⟨op, right⟩ := link
      obtain ⟨rfl, hz⟩ := hz
      have ha : Operator.divide.apply left right = .error .divisionByZero := by rw [Operator.apply_eq, if_pos ⟨rfl, hz⟩]
      simp [collapseFrom, Operator.tier, ha, products, terms, SumOfTerms.terms, run, pieces]
  | cons link' before ih =>
      obtain ⟨op, right⟩ := link'
      obtain ⟨hop, hrest⟩ := List.forall_mem_cons.mp hb
      rw [List.cons_append, collapseFrom]
      by_cases ht : op.tier = .multiplicative
      · have hdivision : ¬(op = .divide ∧ right.isZero) := hop
        rw [if_pos ht, products_cons_of_tier ht, Operator.apply_eq, if_neg hdivision]
        by_cases hf : (op.compute left right).isFinite
        · rw [if_pos hf, Outcome.ok_bind, ih hrest]
          simp only [List.forall_mem_cons, hf, true_and]
        · rw [if_neg hf, Outcome.error_bind]
          simp only [List.forall_mem_cons, if_neg fun h : _ ∧ _ => hf h.1]
      · rw [if_neg ht, ih hrest, products_cons_of_other ht, Outcome.error_bind]

theorem reduce_of_firstZeroDivision (h : chain.FirstZeroDivision before) :
    reduce chain.toTokens =
      .error (if ∀ x ∈ products ⟨chain.head, before⟩, x.isFinite then .divisionByZero else .outOfRange) := by
  obtain ⟨link, after, hl, hz⟩ := h.division
  rw [reduce_eq_fold, collapse, hl, collapseFrom_eq_error hz h.first, Outcome.error_bind]

/-! ## No other division by zero -/

theorem isZeroDivision_of_apply (h : op.apply left right = .error .divisionByZero) : IsZeroDivision (op, right) := by
  rw [Operator.apply_eq] at h
  split at h
  · assumption
  · split at h <;> cases h

/-- A pass divides only by numbers that the chain has at its start. -/
theorem exists_zeroDivision_of_collapseFrom (h : collapseFrom tier left links = .error .divisionByZero) :
    ∃ link ∈ links, link.1.tier = tier ∧ IsZeroDivision link := by
  induction links generalizing left with
  | nil => cases h
  | cons link links ih =>
      obtain ⟨op, right⟩ := link
      have hrest {x : Double} (h : collapseFrom tier x links = .error .divisionByZero) :
          ∃ link ∈ (op, right) :: links, link.1.tier = tier ∧ IsZeroDivision link := by
        obtain ⟨link, hl, hz⟩ := ih h
        exact ⟨link, List.mem_cons_of_mem _ hl, hz⟩
      rw [collapseFrom] at h
      split at h
      · rename_i ht
        rcases Outcome.bind_eq_error.mp h with h | ⟨value, _, h⟩
        · exact ⟨(op, right), List.mem_cons_self, ht, isZeroDivision_of_apply h⟩
        · exact hrest h
      · rcases Outcome.bind_eq_error.mp h with h | ⟨_, _, h⟩
        · exact hrest h
        · cases h

theorem collapse_additive_ne_divisionByZero (chain : Chain) : chain.collapse .additive ≠ .error .divisionByZero := by
  intro h
  obtain ⟨link, _, ht, hop, _⟩ := exists_zeroDivision_of_collapseFrom h
  rw [hop] at ht
  cases ht

theorem exists_zeroDivision_of_reduce (h : reduce chain.toTokens = .error .divisionByZero) :
    ∃ link ∈ chain.links, IsZeroDivision link := by
  rw [reduce_eq_fold] at h
  rcases Outcome.bind_eq_error.mp h with h | ⟨terms, hterms, h⟩
  · obtain ⟨link, hl, _, hz⟩ := exists_zeroDivision_of_collapseFrom h
    exact ⟨link, hl, hz⟩
  · have hadd := collapse_additive hterms
    rw [h] at hadd
    exact absurd hadd (collapse_additive_ne_divisionByZero terms)

end Chain

/-! ## Texts -/

variable {s : String} {chain : Chain}

theorem exists_chain_of_divisionByZero (h : calculate s = .error .divisionByZero) :
    ∃ chain : Chain, tokenize s = .ok chain.toTokens ∧ reduce chain.toTokens = .error .divisionByZero := by
  rw [calculate_eq] at h
  rcases Outcome.bind_eq_error.mp h with h | ⟨tokens, ht, hr⟩
  · rcases tokenize_eq_error h with ⟨_, _, he⟩ | ⟨text, _, hf⟩
    · cases he
    · rcases Literal.eq_of_fault? hf with he | he <;> cases he
  · rcases reduce_eq_error hr with ⟨_, _, he⟩ | ⟨⟨chain, hc⟩, _⟩
    · cases he
    · obtain rfl := Chain.ofTokens_eq_ok.mp hc
      exact ⟨chain, ht, hr⟩

/-- A division by a number is written in the text. -/
theorem exists_cut_of_link {op : Operator} {value : Double} (ht : tokenize s = .ok chain.toTokens)
    (h : (op, value) ∈ chain.links) :
    ∃ before run after, Lexeme.IsCut s.toList (before ++ .operator op :: .run run :: after) ∧
      Literal.isNumber run ∧ Literal.value run = value := by
  obtain ⟨front, back, hl⟩ := List.append_of_mem h
  have htokens : chain.toTokens =
      Chain.toTokens ⟨chain.head, front⟩ ++ .operator op :: .number value :: back.flatMap Chain.linkTokens := by
    simp [Chain.toTokens, hl, Chain.linkTokens]
  have hlegal := legal_of_tokenize ht
  rw [tokenize_of_legal hlegal, htokens] at ht
  obtain ⟨before, rest, hs, _, hrest⟩ := Outcome.exists_append_of_mapM ht
  obtain ⟨rest, rfl, hread⟩ := eq_operator_cons_of_mapM_read hrest
  obtain ⟨run, after, rfl, hf, rfl, _⟩ := eq_run_cons_of_mapM_read hread
  exact ⟨before, run, after, hs ▸ lexemes_isCut hlegal, (Literal.fault?_eq_none.mp hf).1, rfl⟩

/-- A division by zero is reported for a text just when it divides by a number that is zero and no value before the
first such division, within its own term, is out of range. The additive pass reports none. -/
theorem calculate_divisionByZero (s : String) :
    (calculate s = .error .divisionByZero ↔
      ∃ (chain : Chain) (before : List (Operator × Double)), tokenize s = .ok chain.toTokens ∧
        chain.FirstZeroDivision before ∧ ∀ x ∈ Chain.products ⟨chain.head, before⟩, x.isFinite) ∧
    (calculate s = .error .divisionByZero →
      ∃ before run after, Lexeme.IsCut s.toList (before ++ .operator .divide :: .run run :: after) ∧
        Literal.isNumber run ∧ Literal.value run = 0) ∧
    (∀ chain : Chain, tokenize s = .ok chain.toTokens → (∃ link ∈ chain.links, Chain.IsZeroDivision link) →
      ∃ before, chain.FirstZeroDivision before ∧
        calculate s = .error
          (if ∀ x ∈ Chain.products ⟨chain.head, before⟩, x.isFinite then .divisionByZero else .outOfRange)) ∧
    ∀ terms : Chain, terms.collapse .additive ≠ .error .divisionByZero := by
  refine ⟨⟨?_, ?_⟩, ?_, ?_, Chain.collapse_additive_ne_divisionByZero⟩
  · intro h
    obtain ⟨chain, ht, hr⟩ := exists_chain_of_divisionByZero h
    obtain ⟨before, hb⟩ := Chain.exists_firstZeroDivision (Chain.exists_zeroDivision_of_reduce hr)
    refine ⟨chain, before, ht, hb, ?_⟩
    rw [Chain.reduce_of_firstZeroDivision hb] at hr
    by_contra hf
    rw [if_neg hf] at hr
    cases hr
  · rintro ⟨chain, before, ht, hb, hf⟩
    rw [calculate_of_tokenize ht, Chain.reduce_of_firstZeroDivision hb, if_pos hf]
  · intro h
    obtain ⟨chain, ht, hr⟩ := exists_chain_of_divisionByZero h
    obtain ⟨⟨op, value⟩, hl, rfl, hz⟩ := Chain.exists_zeroDivision_of_reduce hr
    obtain ⟨before, run, after, hcut, hn, rfl⟩ := exists_cut_of_link ht hl
    exact ⟨before, run, after, hcut, hn, Double.eq_zero_of_isZero (Double.signed_ne_negZero (.inl rfl)) hz⟩
  · intro chain ht hz
    obtain ⟨before, hb⟩ := Chain.exists_firstZeroDivision hz
    exact ⟨before, hb, by rw [calculate_of_tokenize ht, Chain.reduce_of_firstZeroDivision hb]⟩

theorem calculate_divisionByZero_behind_product :
    let largest : Double := .signed false ⟨Magnitude.infiniteRank - 1, Nat.sub_le _ _⟩
    let chain : Chain := ⟨largest, [(.times, largest), (.divide, 0)]⟩
    let s := Token.join "" chain.toTokens
    calculate "9-5/0.0*3" = .error .divisionByZero ∧
      (∃ before run after, Lexeme.IsCut "9-5/0.0*3".toList (before ++ .operator .divide :: .run run :: after) ∧
        Literal.isNumber run ∧ Literal.value run = 0) ∧
      tokenize s = .ok chain.toTokens ∧
      ∃ before, chain.FirstZeroDivision before ∧
        calculate s = .error
          (if ∀ x ∈ Chain.products ⟨chain.head, before⟩, x.isFinite then .divisionByZero else .outOfRange) := by
  intro largest chain s
  have hquotient : calculate "9-5/0.0*3" = .error .divisionByZero := by decide +kernel
  have hscannable : Token.IsScannable chain.toTokens := by
    refine ⟨by simp [Token.NoAdjacentNumbers, chain, Chain.toTokens, Chain.linkTokens, Token.isNumber], ?_⟩
    have hvalues : ∀ value, .number value ∈ chain.toTokens → value = largest ∨ value = 0 := by
      simp [chain, Chain.toTokens, Chain.linkTokens]
    intro value hv
    rcases hvalues value hv with rfl | rfl
    · decide
    · decide
  have htokens : tokenize s = .ok chain.toTokens := Token.tokenize_join hscannable
  obtain ⟨_, htext, _, _⟩ := calculate_divisionByZero "9-5/0.0*3"
  obtain ⟨_, _, hfirst, _⟩ := calculate_divisionByZero s
  exact ⟨hquotient, htext hquotient, htokens, hfirst chain htokens ⟨(.divide, 0), by simp [chain], rfl, rfl⟩⟩

end Calculator
