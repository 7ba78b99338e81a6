import Calculator.Proofs.Chain.Runs

/-!
# Precedence

A chain as the tree that the tiers make of it: a sum of terms, each of them a product. Reduction in two passes
gives the value of the tree, and fails where the tree fails first when all of its terms are worked out before
any of its additions.
-/

namespace Calculator

/-- Terms joined by additive operators. A term is numbers joined by multiplicative operators. -/
structure SumOfTerms where
  first : Chain
  rest : List (Operator × Chain)
  deriving DecidableEq

namespace SumOfTerms

def terms (sum : SumOfTerms) : List Chain := sum.first :: sum.rest.map Prod.snd

def toTokens (sum : SumOfTerms) : List Token :=
  sum.first.toTokens ++ sum.rest.flatMap fun piece => .operator piece.1 :: piece.2.toTokens

/-- The terms are worked out in order, and then added from the left. -/
def value (sum : SumOfTerms) : Except EvalError Double := do
  let head ← sum.first.fold
  let links ← sum.rest.mapM Chain.foldPiece
  Chain.fold ⟨head, links⟩

/-- The sum is the chain, cut at each plus and minus and nowhere else. -/
structure IsCutOf (sum : SumOfTerms) (chain : Chain) : Prop where
  tokens : sum.toTokens = chain.toTokens
  between : ∀ piece ∈ sum.rest, piece.1 = .plus ∨ piece.1 = .minus
  within : ∀ term ∈ sum.terms, ∀ link ∈ term.links, link.1 = .times ∨ link.1 = .divide

theorem IsCutOf.additive {sum : SumOfTerms} {chain : Chain} (h : sum.IsCutOf chain) :
    ∀ piece ∈ sum.rest, piece.1.tier = .additive :=
  fun piece hp => Operator.tier_eq_additive_iff.mpr (h.between piece hp)

theorem IsCutOf.multiplicative {sum : SumOfTerms} {chain term : Chain} (h : sum.IsCutOf chain) (ht : term ∈ sum.terms) :
    ∀ link ∈ term.links, link.1.tier = .multiplicative :=
  fun link hl => Operator.tier_eq_multiplicative_iff.mpr (h.within term ht link hl)

theorem value_eq_error_of_first {sum : SumOfTerms} {before after : List Chain} {term : Chain} {e : EvalError}
    (hs : sum.terms = before ++ term :: after) (hb : ∀ t ∈ before, ∃ v, t.fold = .ok v)
    (ht : term.fold = .error e) : sum.value = .error e := by
  obtain ⟨first, rest⟩ := sum
  cases before with
  | nil =>
      simp only [terms, List.nil_append, List.cons.injEq] at hs
      obtain ⟨rfl, _⟩ := hs
      simp only [value, ht, Outcome.error_bind]
  | cons t before =>
      simp only [terms, List.cons_append, List.cons.injEq] at hs
      obtain ⟨rfl, hs⟩ := hs
      obtain ⟨v, hv⟩ := hb first (by simp)
      obtain ⟨pieces, more, rfl, hp, hm⟩ := List.map_eq_append_iff.mp hs
      obtain ⟨piece, more, rfl, rfl, rfl⟩ := List.map_eq_cons_iff.mp hm
      have hpieces : ∀ x ∈ pieces, ∃ link, Chain.foldPiece x = .ok link := by
        intro x hx
        obtain ⟨w, hw⟩ := hb x.2 (by simp [← hp, List.mem_map_of_mem hx])
        exact ⟨(x.1, w), by simp only [Chain.foldPiece, hw, Outcome.ok_bind, Outcome.pure_eq]⟩
      have hpiece : Chain.foldPiece piece = .error e := by
        simp only [Chain.foldPiece, ht, Outcome.error_bind]
      simp only [value, hv, Outcome.ok_bind, Outcome.mapM_eq_error_of_first hpieces hpiece, Outcome.error_bind]

theorem isArithmetic_of_value {sum : SumOfTerms} {e : EvalError} (h : sum.value = .error e) : e.IsArithmetic := by
  rcases Outcome.bind_eq_error.mp h with h | ⟨_, _, h⟩
  · exact Chain.isArithmetic_of_fold h
  · rcases Outcome.bind_eq_error.mp h with h | ⟨_, _, h⟩
    · obtain ⟨piece, _, hp⟩ := Outcome.exists_of_mapM_eq_error h
      rcases Outcome.bind_eq_error.mp hp with hp | ⟨_, _, hp⟩
      · exact Chain.isArithmetic_of_fold hp
      · cases hp
    · exact Chain.isArithmetic_of_fold h

end SumOfTerms

theorem Tier.eq_additive {tier : Tier} (h : tier ≠ .multiplicative) : tier = .additive := by
  cases tier with
  | multiplicative => exact absurd rfl h
  | additive => rfl

namespace Chain

def terms (chain : Chain) : SumOfTerms :=
  ⟨⟨chain.head, run .multiplicative chain.links⟩, pieces .multiplicative chain.links⟩

theorem terms_isCutOf (chain : Chain) : chain.terms.IsCutOf chain where
  tokens := by
    have h := congrArg (List.flatMap linkTokens) (run_append_pieces .multiplicative chain.links)
    rw [List.flatMap_append, List.flatMap_assoc] at h
    exact congrArg (.number chain.head :: ·) h
  between := fun _ hp => Operator.tier_eq_additive_iff.mp (Tier.eq_additive (tier_of_mem_pieces hp).1)
  within := by
    intro term ht link hl
    refine Operator.tier_eq_multiplicative_iff.mp ?_
    rcases List.mem_cons.mp ht with rfl | ht
    · exact tier_of_mem_run hl
    · obtain ⟨piece, hp, rfl⟩ := List.mem_map.mp ht
      exact (tier_of_mem_pieces hp).2 link hl

end Chain

theorem Chain.collapse_additive {chain terms : Chain} (h : chain.collapse .multiplicative = .ok terms) :
    terms.collapse .additive = do
      let value ← terms.fold
      return ⟨value, []⟩ :=
  terms.collapse_of_tier fun link hl => Tier.eq_additive (tier_of_mem_collapse h link hl)

/-- After the first pass only additive operators are left, and the second pass folds them all. -/
theorem reduce_eq_fold (chain : Chain) :
    reduce chain.toTokens = chain.collapse .multiplicative >>= Chain.fold := by
  have hc : Chain.ofTokens chain.toTokens = .ok chain := Chain.ofTokens_eq_ok.mpr rfl
  simp only [reduce, hc, Except.mapError, Outcome.ok_bind]
  cases ht : chain.collapse .multiplicative with
  | error e => rfl
  | ok terms =>
      rw [Outcome.ok_bind, Outcome.ok_bind, Chain.collapse_additive ht]
      cases terms.fold with
      | error e => rfl
      | ok value => rfl

theorem reduce_toTokens (chain : Chain) : reduce chain.toTokens = chain.terms.value := by
  simp only [reduce_eq_fold, Chain.collapse_eq, SumOfTerms.value, Chain.terms, bind_assoc, Outcome.pure_eq,
    Outcome.ok_bind]

theorem reduce_of_ofTokens_error {tokens : List Token} {m : Malformation} (h : Chain.ofTokens tokens = .error m) :
    reduce tokens = .error (.malformed m) := by
  rw [reduce, h]
  rfl

theorem reduce_eq_ok {tokens : List Token} {v : Double} :
    reduce tokens = .ok v ↔ ∃ chain : Chain, tokens = chain.toTokens ∧ chain.terms.value = .ok v := by
  constructor
  · intro h
    cases hc : Chain.ofTokens tokens with
    | error m =>
        rw [reduce_of_ofTokens_error hc] at h
        cases h
    | ok chain =>
        obtain rfl := Chain.ofTokens_eq_ok.mp hc
        exact ⟨chain, rfl, reduce_toTokens chain ▸ h⟩
  · rintro ⟨chain, rfl, h⟩
    rwa [reduce_toTokens]

theorem reduce_eq_error {tokens : List Token} {e : EvalError} (h : reduce tokens = .error e) :
    (∃ m, Chain.ofTokens tokens = .error m ∧ e = .malformed m) ∨
      (∃ chain, Chain.ofTokens tokens = .ok chain) ∧ e.IsArithmetic := by
  cases hc : Chain.ofTokens tokens with
  | ok chain =>
      rw [Chain.ofTokens_eq_ok.mp hc, reduce_toTokens] at h
      exact .inr ⟨⟨chain, rfl⟩, SumOfTerms.isArithmetic_of_value h⟩
  | error m =>
      rw [reduce_of_ofTokens_error hc] at h
      cases h
      exact .inl ⟨m, rfl, rfl⟩

theorem reduce_eq_malformed {tokens : List Token} {m : Malformation} :
    reduce tokens = .error (.malformed m) ↔ Chain.ofTokens tokens = .error m := by
  refine ⟨fun h => ?_, reduce_of_ofTokens_error⟩
  rcases reduce_eq_error h with ⟨_, hc, he⟩ | ⟨_, he⟩
  · cases he
    exact hc
  · rcases he with he | he <;> cases he

/-- A chain reduces to the value of its tree. A term that fails decides the error whatever stands before it,
but for terms that fail too. -/
theorem reduce_eq_value_of_terms (chain : Chain) :
    chain.terms.IsCutOf chain ∧ reduce chain.toTokens = chain.terms.value ∧
      ∀ before term after e, chain.terms.terms = before ++ term :: after →
        (∀ t ∈ before, ∃ v, t.fold = .ok v) → term.fold = .error e →
        reduce chain.toTokens = .error e := by
  refine ⟨chain.terms_isCutOf, reduce_toTokens chain, ?_⟩
  intro before term after e hs hb ht
  rw [reduce_toTokens]
  exact SumOfTerms.value_eq_error_of_first hs hb ht

end Calculator
