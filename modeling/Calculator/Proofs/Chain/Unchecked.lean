import Calculator.Proofs.Chain.Precedence

/-!
# Values without checks

A chain folded with no check at all. The checks stop at the first value that is not finite, and no later operator
makes such a value finite again, so they fail just when the unchecked value is not finite in the end.
-/

namespace Calculator

namespace Chain

/-- Applies all the operators from left to right and looks at no value. -/
def compute (chain : Chain) : Double := chain.links.foldl (fun left link => link.1.compute left link.2) chain.head

variable {op : Operator} {head left right value : Double} {links : List (Operator × Double)}

theorem isFinite_head_of_compute (h : (compute ⟨head, links⟩).isFinite) : head.isFinite := by
  induction links generalizing head with
  | nil => exact h
  | cons link rest ih => exact Operator.isFinite_left_of_compute (ih h)

/-- With additive operators alone no operand gets lost. -/
theorem isFinite_of_compute (ht : ∀ link ∈ links, link.1.tier = .additive) (h : (compute ⟨head, links⟩).isFinite) :
    ∀ link ∈ links, link.2.isFinite := by
  induction links generalizing head with
  | nil => simp
  | cons link rest ih =>
      have hrest := ih (fun link hl => ht link (by simp [hl])) h
      have hlink := Operator.isFinite_right_of_compute (ht link (by simp)) (isFinite_head_of_compute h)
      exact List.forall_mem_cons.mpr ⟨hlink, hrest⟩

theorem eq_compute_of_fold (h : fold ⟨head, links⟩ = .ok value) : value = compute ⟨head, links⟩ := by
  induction links generalizing head with
  | nil =>
      cases h
      rfl
  | cons link rest ih =>
      rw [fold_cons] at h
      obtain ⟨left, ha, hf⟩ := Outcome.bind_eq_ok.mp h
      obtain ⟨rfl, _⟩ := Operator.apply_eq_ok.mp ha
      exact ih hf

/-- The number at the head must be finite, because nothing checks it when it stands alone. -/
theorem isFinite_of_fold (hh : head.isFinite) (h : fold ⟨head, links⟩ = .ok value) : value.isFinite := by
  induction links generalizing head with
  | nil =>
      cases h
      exact hh
  | cons link rest ih =>
      rw [fold_cons] at h
      obtain ⟨left, ha, hf⟩ := Outcome.bind_eq_ok.mp h
      exact ih (Operator.apply_eq_ok.mp ha).2 hf

theorem isFinite_or_of_fold {chain : Chain} (h : chain.fold = .ok value) : value.isFinite ∨ chain = ⟨value, []⟩ := by
  obtain ⟨head, links⟩ := chain
  cases links with
  | nil =>
      cases h
      exact .inr rfl
  | cons link rest =>
      rw [fold_cons] at h
      obtain ⟨left, ha, hf⟩ := Outcome.bind_eq_ok.mp h
      exact .inl (isFinite_of_fold (Operator.apply_eq_ok.mp ha).2 hf)

theorem fold_of_isFinite (h : (compute ⟨head, links⟩).isFinite) :
    fold ⟨head, links⟩ = .ok (compute ⟨head, links⟩) := by
  induction links generalizing head with
  | nil => rfl
  | cons link rest ih =>
      have ha := Operator.apply_eq_ok.mpr ⟨rfl, isFinite_head_of_compute h⟩
      rw [fold_cons, ha]
      exact ih h

theorem eqUpToZero_compute {other : Double} (ht : ∀ link ∈ links, link.1.tier = .additive)
    (h : head.EqUpToZero other) : (compute ⟨head, links⟩).EqUpToZero (compute ⟨other, links⟩) := by
  induction links generalizing head other with
  | nil => exact h
  | cons link rest ih =>
      exact ih (fun link hl => ht link (by simp [hl])) (Operator.eqUpToZero_compute (ht link (by simp)) h)

theorem head_eq_negZero_of_compute (ht : ∀ link ∈ links, link.1.tier = .additive)
    (h : compute ⟨head, links⟩ = -0) : head = -0 := by
  induction links generalizing head with
  | nil => exact h
  | cons link rest ih =>
      have hrest := ih (fun link hl => ht link (by simp [hl])) h
      exact Operator.eq_negZero_of_compute (ht link (by simp)) hrest

theorem isNegative_compute (ht : ∀ link ∈ links, link.1.tier = .multiplicative) (h : head.isNegative = false)
    (hl : ∀ link ∈ links, link.2.isNegative = false) : (compute ⟨head, links⟩).isNegative = false := by
  induction links generalizing head with
  | nil => exact h
  | cons link rest ih =>
      exact ih (fun link hm => ht link (by simp [hm]))
        (Operator.isNegative_compute (ht link (by simp)) h (hl link (by simp)))
        (fun link hm => hl link (by simp [hm]))

theorem number_mem_toTokens {chain : Chain} {link : Operator × Double} (h : link ∈ chain.links) :
    .number link.2 ∈ chain.toTokens :=
  List.mem_cons_of_mem _ (List.mem_flatMap.mpr ⟨link, h, by simp [linkTokens]⟩)

/-- The first term of numbers without sign has none. -/
theorem isNegative_first {chain : Chain} (h : ∀ x, .number x ∈ chain.toTokens → x.isNegative = false) :
    chain.terms.first.compute.isNegative = false := by
  refine isNegative_compute (fun link hl => tier_of_mem_run hl) (h _ List.mem_cons_self) ?_
  intro link hl
  exact h _ (number_mem_toTokens (List.takeWhile_subset _ hl))

end Chain

/-! ## Sums -/

namespace SumOfTerms

variable {sum : SumOfTerms} {value : Double}

def computeRest (sum : SumOfTerms) : List (Operator × Double) :=
  sum.rest.map fun piece => (piece.1, piece.2.compute)

def compute (sum : SumOfTerms) : Double := Chain.compute ⟨sum.first.compute, sum.computeRest⟩

theorem tier_of_mem_computeRest (ht : ∀ piece ∈ sum.rest, piece.1.tier = .additive) :
    ∀ link ∈ sum.computeRest, link.1.tier = .additive := by
  intro link hl
  obtain ⟨piece, hp, rfl⟩ := List.mem_map.mp hl
  exact ht piece hp

theorem eq_computeRest_of_mapM {links : List (Operator × Double)} (h : sum.rest.mapM Chain.foldPiece = .ok links) :
    links = sum.computeRest := by
  have hpiece : ∀ piece link, Chain.foldPiece piece = .ok link → id link = (piece.1, piece.2.compute) := by
    intro piece link hp
    obtain ⟨value, hf, he⟩ := Outcome.bind_eq_ok.mp hp
    cases he
    rw [Chain.eq_compute_of_fold hf]
    rfl
  have hmap := Outcome.map_eq_of_mapM hpiece h
  rwa [List.map_id] at hmap

theorem mapM_of_isFinite (h : ∀ link ∈ sum.computeRest, link.2.isFinite) :
    sum.rest.mapM Chain.foldPiece = .ok sum.computeRest := by
  obtain ⟨first, rest⟩ := sum
  induction rest with
  | nil => rfl
  | cons piece rest ih =>
      obtain ⟨hp, hrest⟩ := List.forall_mem_cons.mp h
      refine Outcome.mapM_eq_ok_cons.mpr ⟨_, _, ?_, ih hrest, rfl⟩
      rw [Chain.foldPiece, Chain.fold_of_isFinite hp]
      rfl

theorem eq_compute_of_value (h : sum.value = .ok value) : value = sum.compute := by
  obtain ⟨head, hh, h⟩ := Outcome.bind_eq_ok.mp h
  obtain ⟨links, hl, h⟩ := Outcome.bind_eq_ok.mp h
  rw [Chain.eq_compute_of_fold h, Chain.eq_compute_of_fold hh, eq_computeRest_of_mapM hl, compute]

theorem isFinite_or_of_value (h : sum.value = .ok value) : value.isFinite ∨ sum = ⟨⟨value, []⟩, []⟩ := by
  obtain ⟨head, hh, h⟩ := Outcome.bind_eq_ok.mp h
  obtain ⟨links, hl, h⟩ := Outcome.bind_eq_ok.mp h
  rcases Chain.isFinite_or_of_fold h with hv | hs
  · exact .inl hv
  -- Nothing was added, so the value is the first term's, and that was checked if it is a product.
  cases hs
  have hrest : sum.rest = [] := List.map_eq_nil_iff.mp (eq_computeRest_of_mapM hl).symm
  refine (Chain.isFinite_or_of_fold hh).imp_right fun hfirst => ?_
  obtain ⟨first, rest⟩ := sum
  rw [show first = ⟨value, []⟩ from hfirst, show rest = [] from hrest]

theorem isFinite_of_value (hh : sum.first.head.isFinite) (h : sum.value = .ok value) : value.isFinite := by
  rcases isFinite_or_of_value h with hv | rfl
  · exact hv
  · exact hh

/-- A term that is not finite stays in the sum, so where the sum is finite all of its terms are. -/
theorem value_of_isFinite (ht : ∀ piece ∈ sum.rest, piece.1.tier = .additive) (h : sum.compute.isFinite) :
    sum.value = .ok sum.compute := by
  have hfirst : sum.first.compute.isFinite := Chain.isFinite_head_of_compute h
  have hrest := Chain.isFinite_of_compute (tier_of_mem_computeRest ht) h
  rw [value, Chain.fold_of_isFinite hfirst, Outcome.ok_bind, mapM_of_isFinite hrest, Outcome.ok_bind]
  exact Chain.fold_of_isFinite h

/-- A sum that starts with a term without sign is no negative zero, whatever cancels. -/
theorem compute_ne_negZero {chain : Chain} (h : ∀ x, .number x ∈ chain.toTokens → x.isNegative = false) :
    chain.terms.compute ≠ -0 := by
  intro hz
  have hfirst := Chain.head_eq_negZero_of_compute (tier_of_mem_computeRest chain.terms_isCutOf.additive) hz
  have hsign := Chain.isNegative_first h
  rw [hfirst] at hsign
  cases hsign

end SumOfTerms

/-- What is not finite has met no operator. -/
theorem isFinite_or_of_reduce {tokens : List Token} {v : Double} (h : reduce tokens = .ok v) :
    v.isFinite ∨ tokens = [.number v] := by
  obtain ⟨chain, rfl, hv⟩ := reduce_eq_ok.mp h
  refine (SumOfTerms.isFinite_or_of_value hv).imp_right fun hs => ?_
  rw [← chain.terms_isCutOf.tokens, hs]
  rfl

end Calculator
