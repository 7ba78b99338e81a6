import Calculator.Proofs.Chain.Unchecked
import Calculator.SinglePass

/-!
# The two evaluations agree

The single pass works out each term when it meets it and adds the term at the next additive operator, which is the
sum of the terms of the chain with a zero put in front. That zero changes no value but a negative zero.
-/

namespace Calculator

namespace SinglePass

variable {op : Operator} {links : List (Operator × Double)}

/-! ## Steps -/

theorem step_additive (ht : op.tier = .additive) (state : SinglePass) :
    state.step (.operator op) = { state with sum := state.total, negative := op = .minus, term := none } := by
  cases op with
  | plus => rfl
  | minus => rfl
  | times => cases ht
  | divide => cases ht

theorem step_multiplicative (ht : op.tier = .multiplicative) (state : SinglePass) (left right : Double) :
    (step { state with term := some left } (.operator op)).step (.number right) =
      { state with term := some (op.compute left right), dividing := op = .divide } := by
  cases op with
  | plus => cases ht
  | minus => cases ht
  | times => rfl
  | divide => rfl

theorem step_number {state : SinglePass} (h : state.term = none) (value : Double) :
    state.step (.number value) = { state with term := some value } := by
  simp only [step, h]

theorem total_eq_compute (ht : op.tier = .additive) (sum term : Double) (dividing : Bool) :
    total ⟨sum, op = .minus, some term, dividing⟩ = op.compute sum term := by
  cases op with
  | plus => rfl
  | minus => rfl
  | times => cases ht
  | divide => cases ht

/-! ## Runs -/

-- Whether the last operator was a division is left over from term to term, and nothing else is.
theorem foldl_links (ht : ∀ link ∈ links, link.1.tier = .multiplicative) (state : SinglePass) (left : Double) :
    ∃ dividing, (links.flatMap Chain.linkTokens).foldl step { state with term := some left } =
      { state with term := some (Chain.compute ⟨left, links⟩), dividing } := by
  induction links generalizing state left with
  | nil => exact ⟨state.dividing, rfl⟩
  | cons link rest ih =>
      obtain ⟨op, right⟩ := link
      obtain ⟨dividing, hd⟩ := ih (fun link hl => ht link (by simp [hl])) { state with dividing := op = .divide }
        (op.compute left right)
      refine ⟨dividing, ?_⟩
      rw [List.flatMap_cons, List.foldl_append, Chain.linkTokens, List.foldl_cons, List.foldl_cons, List.foldl_nil,
        step_multiplicative (ht (op, right) (by simp))]
      exact hd

theorem foldl_term {term : Chain} (ht : ∀ link ∈ term.links, link.1.tier = .multiplicative)
    (state : SinglePass) (h : state.term = none) :
    ∃ dividing, term.toTokens.foldl step state = { state with term := some term.compute, dividing } := by
  rw [Chain.toTokens, List.foldl_cons, step_number h]
  exact foldl_links ht state term.head

theorem total_foldl_pieces {pieces : List (Operator × Chain)} (hb : ∀ piece ∈ pieces, piece.1.tier = .additive)
    (hw : ∀ piece ∈ pieces, ∀ link ∈ piece.2.links, link.1.tier = .multiplicative) (state : SinglePass) :
    ((pieces.flatMap fun piece => .operator piece.1 :: piece.2.toTokens).foldl step state).total =
      Chain.compute ⟨state.total, pieces.map fun piece => (piece.1, piece.2.compute)⟩ := by
  induction pieces generalizing state with
  | nil => rfl
  | cons piece rest ih =>
      have hop := hb piece (by simp)
      have hrest := ih (fun piece hp => hb piece (by simp [hp])) (fun piece hp => hw piece (by simp [hp]))
      rw [List.flatMap_cons, List.foldl_append, List.foldl_cons, step_additive hop, hrest]
      obtain ⟨dividing, hd⟩ := foldl_term (hw piece (by simp))
        { state with sum := state.total, negative := piece.1 = .minus, term := none } rfl
      rw [hd, total_eq_compute hop]
      rfl

/-- The zero that the sum starts with is added to the first term. -/
theorem value_toTokens (chain : Chain) :
    value chain.toTokens = Chain.compute ⟨0 + chain.terms.first.compute, chain.terms.computeRest⟩ := by
  have hcut := chain.terms_isCutOf
  obtain ⟨dividing, hd⟩ := foldl_term (hcut.multiplicative List.mem_cons_self) {} rfl
  rw [value, ← hcut.tokens, SumOfTerms.toTokens, List.foldl_append, hd, total_foldl_pieces hcut.additive]
  · rfl
  · intro piece hp
    exact hcut.multiplicative (List.mem_cons_of_mem _ (List.mem_map_of_mem hp))

/-! ## The zero in front -/

variable {chain : Chain}

theorem compute_terms_eqUpToZero (chain : Chain) : chain.terms.compute.EqUpToZero (value chain.toTokens) := by
  rw [value_toTokens]
  exact Chain.eqUpToZero_compute (SumOfTerms.tier_of_mem_computeRest chain.terms_isCutOf.additive)
    (Double.eqUpToZero_zero_add _)

theorem compute_terms_eq_value (h : ∀ x, .number x ∈ chain.toTokens → x.isNegative = false) :
    chain.terms.compute = value chain.toTokens := by
  rw [value_toTokens, Double.zero_add_of_isNegative (Chain.isNegative_first h)]
  rfl

end SinglePass

/-- Reduction gives a value just when the single pass ends in a finite number, and then it is the same number: bit
for bit where no number has a sign, and else but for the sign of a zero. Only the first number has to be finite. -/
theorem reduce_agrees_with_singlePass (chain : Chain) (h : chain.head.isFinite) :
    ((∃ value, reduce chain.toTokens = .ok value) ↔ (SinglePass.value chain.toTokens).isFinite) ∧
    ∀ value, reduce chain.toTokens = .ok value →
      value.sameNumber (SinglePass.value chain.toTokens) ∧
      ((∀ x, .number x ∈ chain.toTokens → x.isNegative = false) → value = SinglePass.value chain.toTokens) := by
  have hsame := SinglePass.compute_terms_eqUpToZero chain
  have hfinite {value : Double} (hv : reduce chain.toTokens = .ok value) : value.isFinite :=
    SumOfTerms.isFinite_of_value h ((reduce_toTokens chain).symm.trans hv)
  have hvalue {value : Double} (hv : reduce chain.toTokens = .ok value) : value = chain.terms.compute :=
    SumOfTerms.eq_compute_of_value ((reduce_toTokens chain).symm.trans hv)
  constructor
  · rw [← hsame.isFinite_eq]
    constructor
    · rintro ⟨value, hv⟩
      rw [← hvalue hv]
      exact hfinite hv
    · intro hf
      exact ⟨_, (reduce_toTokens chain).trans (SumOfTerms.value_of_isFinite chain.terms_isCutOf.additive hf)⟩
  · intro value hv
    have hf := hfinite hv
    obtain rfl := hvalue hv
    exact ⟨hsame.sameNumber hf, SinglePass.compute_terms_eq_value⟩

theorem reduce_agrees_with_singlePass_on_mixed_tiers :
    let chain : Chain := ⟨.ofRatio 1 1, [(.minus, .ofRatio 3 1), (.times, .ofRatio 1 2)]⟩
    chain.head.isFinite ∧ reduce chain.toTokens = .ok (-.ofRatio 1 2) ∧
      (SinglePass.value chain.toTokens).isFinite ∧ -.ofRatio 1 2 = SinglePass.value chain.toTokens := by
  intro chain
  have hh : chain.head.isFinite := by decide +kernel
  have hr : reduce chain.toTokens = .ok (-.ofRatio 1 2) := by decide +kernel
  have hs : ∀ x, .number x ∈ chain.toTokens → x.isNegative = false := by
    intro x hx
    simp only [chain, Chain.toTokens, Chain.linkTokens, List.flatMap_cons, List.flatMap_nil, List.cons_append,
      List.nil_append, List.mem_cons, List.not_mem_nil, Token.number.injEq, reduceCtorEq, false_or, or_false] at hx
    rcases hx with rfl | rfl | rfl <;> rfl
  obtain ⟨hok, hv⟩ := reduce_agrees_with_singlePass chain hh
  exact ⟨hh, hr, hok.mp ⟨_, hr⟩, (hv _ hr).2 hs⟩

/-- The sign of a zero is where they differ. -/
example : reduce [.number (-0)] = .ok (-0) ∧ SinglePass.value [.number (-0)] = 0 := by decide +kernel

end Calculator
