import Calculator.Proofs.Chain.Precedence

/-!
# Joined chains

Chains put together at an operator, and cut again. An additive operator between two chains leaves each of them its
terms, so a chain has no other cut than the one into its terms.
-/

namespace Calculator

variable {op : Operator} {links : List (Operator × Double)}

namespace Chain

def join (left : Chain) (op : Operator) (right : Chain) : Chain :=
  ⟨left.head, left.links ++ (op, right.head) :: right.links⟩

def followedBy (chain : Chain) (links : List (Operator × Double)) : Chain := ⟨chain.head, chain.links ++ links⟩

theorem toTokens_join (left : Chain) (op : Operator) (right : Chain) :
    (left.join op right).toTokens = left.toTokens ++ .operator op :: right.toTokens := by
  simp [join, toTokens, linkTokens]

theorem toTokens_followedBy (chain : Chain) (links : List (Operator × Double)) :
    (chain.followedBy links).toTokens = chain.toTokens ++ links.flatMap linkTokens := by
  simp [followedBy, toTokens]

theorem toTokens_injective {chain other : Chain} (h : chain.toTokens = other.toTokens) : chain = other := by
  have hother := ofTokens_eq_ok.mpr h
  rw [ofTokens_eq_ok.mpr rfl] at hother
  exact Except.ok.inj hother

/-- A chain is cut in two at each of its operators. -/
theorem exists_join {before after : List Token} {chain : Chain}
    (h : chain.toTokens = before ++ .operator op :: after) :
    ∃ left right : Chain, before = left.toTokens ∧ after = right.toTokens := by
  obtain ⟨head, links⟩ := chain
  induction links generalizing head before with
  | nil => cases before <;> simp [toTokens] at h
  | cons link links ih =>
      obtain ⟨op', value⟩ := link
      cases before with
      | nil => simp [toTokens] at h
      | cons token before => cases before with
          | nil =>
              simp only [toTokens, List.flatMap_cons, linkTokens, List.cons_append, List.nil_append, List.cons.injEq] at h
              obtain ⟨rfl, _, rfl⟩ := h
              exact ⟨⟨head, []⟩, ⟨value, links⟩, rfl, rfl⟩
          | cons token' before =>
              simp only [toTokens, List.flatMap_cons, linkTokens, List.cons_append, List.nil_append, List.cons.injEq] at h
              obtain ⟨rfl, rfl, h⟩ := h
              obtain ⟨left, right, rfl, rfl⟩ := ih value h
              exact ⟨⟨head, (op', left.head) :: left.links⟩, right, by simp [toTokens, linkTokens], rfl⟩

theorem exists_followedBy {chain front : Chain} {rest : List Token} (h : chain.toTokens = front.toTokens ++ rest) :
    ∃ links : List (Operator × Double), rest = links.flatMap linkTokens := by
  obtain ⟨head, links⟩ := chain
  obtain ⟨head', links'⟩ := front
  induction links' generalizing head links head' with
  | nil =>
      simp only [toTokens, List.flatMap_nil, List.cons_append, List.nil_append, List.cons.injEq] at h
      exact ⟨links, h.2.symm⟩
  | cons link links' ih =>
      obtain ⟨op', value'⟩ := link
      cases links with
      | nil => simp [toTokens, linkTokens] at h
      | cons link links =>
          simp only [toTokens, List.flatMap_cons, linkTokens, List.cons_append, List.nil_append, List.cons.injEq] at h
          obtain ⟨_, _, hvalue, h⟩ := h
          exact ih link.2 links value' (by simp only [toTokens, List.cons_append, hvalue, h])

/-! ## Their terms -/

theorem terms_followedBy (chain : Chain) (h : ∀ link ∈ links.head?, link.1.tier ≠ .multiplicative) :
    (chain.followedBy links).terms = ⟨chain.terms.first, chain.terms.rest ++ pieces .multiplicative links⟩ := by
  simp only [terms, followedBy, run_append h, pieces_append h]

theorem terms_join (left : Chain) (ht : op.tier ≠ .multiplicative) (right : Chain) :
    (left.join op right).terms =
      ⟨left.terms.first, left.terms.rest ++ (op, right.terms.first) :: right.terms.rest⟩ := by
  have hhead : ∀ link ∈ ((op, right.head) :: right.links).head?, link.1.tier ≠ .multiplicative := by simpa using ht
  have h := left.terms_followedBy hhead
  rwa [pieces_cons_of_other ht] at h

theorem terms_of_multiplicative {term : Chain} (h : ∀ link ∈ term.links, link.1.tier = .multiplicative) :
    term.terms = ⟨term, []⟩ := by
  rw [terms, run_eq_self h, pieces_eq_nil h]

end Chain

/-- A chain has one cut. -/
theorem SumOfTerms.IsCutOf.terms_eq {sum : SumOfTerms} {chain : Chain} (h : sum.IsCutOf chain) : chain.terms = sum := by
  obtain ⟨first, rest⟩ := sum
  induction rest generalizing first chain with
  | nil =>
      obtain rfl : chain = first := Chain.toTokens_injective (h.tokens.symm.trans (List.append_nil _))
      exact Chain.terms_of_multiplicative (h.multiplicative List.mem_cons_self)
  | cons piece rest ih =>
      obtain ⟨op, term⟩ := piece
      have hop : op.tier = .additive := h.additive (op, term) List.mem_cons_self
      have hfirst := h.multiplicative List.mem_cons_self
      have hjoin : chain.toTokens = first.toTokens ++ .operator op :: toTokens ⟨term, rest⟩ := h.tokens.symm
      obtain ⟨left, right, hleft, hright⟩ := Chain.exists_join hjoin
      have hrest : IsCutOf ⟨term, rest⟩ right :=
        ⟨hright, (List.forall_mem_cons.mp h.between).2, (List.forall_mem_cons.mp h.within).2⟩
      obtain rfl := Chain.toTokens_injective hleft
      rw [hright, ← Chain.toTokens_join] at hjoin
      obtain rfl := Chain.toTokens_injective hjoin
      rw [first.terms_join (by simp [hop]), Chain.terms_of_multiplicative hfirst, ih term hrest]
      rfl

end Calculator
