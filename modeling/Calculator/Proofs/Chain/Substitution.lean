import Calculator.Proofs.Chain.FirstFault
import Calculator.Proofs.Chain.Joined

/-!
# Parts folded in advance

A term that has a value can be replaced by the value wherever it stands, and so can a sum at the front, for this is what
a pass would have folded first. All else is left as it was: the result, and which failure comes first.
-/

namespace Calculator

/-- Plus and minus, at which terms end. -/
def Token.IsAdditive (token : Token) : Prop := token = .operator .plus ∨ token = .operator .minus

theorem Token.IsAdditive.exists_operator {token : Token} (h : token.IsAdditive) :
    ∃ op : Operator, token = .operator op ∧ op.tier ≠ .multiplicative := by
  rcases h with rfl | rfl
  · exact ⟨.plus, rfl, by decide⟩
  · exact ⟨.minus, rfl, by decide⟩

variable {op : Operator} {links : List (Operator × Double)} {v : Double}

/-! ## Values of terms -/

namespace SumOfTerms

/-- The terms count by their values alone. -/
theorem value_congr {sum other : SumOfTerms} (hfirst : sum.first.fold = other.first.fold)
    (hrest : sum.rest.map Chain.foldPiece = other.rest.map Chain.foldPiece) : sum.value = other.value := by
  have hm (s : SumOfTerms) : s.rest.mapM Chain.foldPiece = (s.rest.map Chain.foldPiece).mapM id := by
    rw [List.mapM_map]
    rfl
  simp only [value, hm, hfirst, hrest]

theorem value_term (term : Chain) : value ⟨term, []⟩ = term.fold := by
  simp only [value, List.mapM_nil, Outcome.pure_eq, Outcome.ok_bind, Chain.fold_nil, Outcome.bind_ok]

/-- What is added from the left can be added in advance. -/
theorem value_append {sum : SumOfTerms} (h : sum.value = .ok v) (rest : List (Operator × Chain)) :
    value ⟨sum.first, sum.rest ++ rest⟩ = value ⟨⟨v, []⟩, rest⟩ := by
  obtain ⟨head, hhead, h⟩ := Outcome.bind_eq_ok.mp h
  obtain ⟨links, hlinks, h⟩ := Outcome.bind_eq_ok.mp h
  simp only [value, hhead, List.mapM_append, hlinks, bind_assoc, Outcome.ok_bind, Outcome.pure_eq, Chain.fold_append, h,
    Chain.fold_nil]

end SumOfTerms

/-! ## Replacement -/

namespace Chain

variable {front term other : Chain}

theorem additive_of_head? (h : ∀ token ∈ (links.flatMap linkTokens).head?, token.IsAdditive) :
    ∀ link ∈ links.head?, link.1.tier ≠ .multiplicative := by
  intro link hl
  obtain ⟨rest, rfl⟩ : ∃ rest, links = link :: rest := by
    cases links with
    | nil => cases hl
    | cons first rest => cases hl; exact ⟨rest, rfl⟩
  obtain ⟨op, he, ht⟩ := (h (.operator link.1) rfl).exists_operator
  cases he
  exact ht

theorem reduce_followedBy (hv : front.terms.value = .ok v)
    (h : ∀ link ∈ links.head?, link.1.tier ≠ .multiplicative) :
    reduce (front.followedBy links).toTokens = reduce (followedBy ⟨v, []⟩ links).toTokens := by
  rw [reduce_toTokens, reduce_toTokens, terms_followedBy front h, terms_followedBy _ h]
  exact SumOfTerms.value_append hv _

theorem reduce_join_followedBy (left : Chain) (ht : op.tier ≠ .multiplicative) (hterm : term.terms = ⟨term, []⟩)
    (hother : other.terms = ⟨other, []⟩) (hfold : term.fold = other.fold)
    (h : ∀ link ∈ links.head?, link.1.tier ≠ .multiplicative) :
    reduce (left.join op (term.followedBy links)).toTokens =
      reduce (left.join op (other.followedBy links)).toTokens := by
  have hpiece : foldPiece (op, term) = foldPiece (op, other) := by simp only [foldPiece, hfold]
  rw [reduce_toTokens, reduce_toTokens, terms_join left ht, terms_join left ht]
  refine SumOfTerms.value_congr rfl ?_
  simp only [terms_followedBy _ h, hterm, hother, List.map_append, List.map_cons, hpiece]

end Chain

/-- A term between additive operators, or at an end, can be replaced by its value, and so can all that stands in front
of an additive operator. The outcome stays the same, error or not. -/
theorem reduce_with_part_folded :
    (∀ (left term right : List Token) (v : Double), Alternates (left ++ term ++ right) →
      (∀ token ∈ left.getLast?, token.IsAdditive) → (∀ token ∈ right.head?, token.IsAdditive) →
      Alternates term → (∀ op, .operator op ∈ term → op = .times ∨ op = .divide) → reduce term = .ok v →
      reduce (left ++ term ++ right) = reduce (left ++ [.number v] ++ right)) ∧
    ∀ (front right : List Token) (v : Double), Alternates (front ++ right) →
      (∀ token ∈ right.head?, token.IsAdditive) → Alternates front → reduce front = .ok v →
      reduce (front ++ right) = reduce ([.number v] ++ right) := by
  have hfront : ∀ (front right : List Token) (v : Double), Alternates (front ++ right) →
      (∀ token ∈ right.head?, token.IsAdditive) → Alternates front → reduce front = .ok v →
      reduce (front ++ right) = reduce ([.number v] ++ right) := by
    intro front right v h hr hf hv
    obtain ⟨front, rfl⟩ := alternates_iff.mp hf
    obtain ⟨chain, hc⟩ := alternates_iff.mp h
    obtain ⟨links, rfl⟩ := Chain.exists_followedBy hc.symm
    have hreduce := Chain.reduce_followedBy (reduce_toTokens front ▸ hv) (Chain.additive_of_head? hr)
    rwa [Chain.toTokens_followedBy, Chain.toTokens_followedBy] at hreduce
  refine ⟨?_, hfront⟩
  intro left term right v h hl hr ht hops hv
  rcases List.eq_nil_or_concat' left with rfl | ⟨before, token, rfl⟩
  · exact hfront term right v h hr ht hv
  · obtain ⟨op, rfl, hop⟩ := (hl token (by simp)).exists_operator
    obtain ⟨chain, hc⟩ := alternates_iff.mp h
    rw [List.append_assoc, List.append_assoc, List.singleton_append] at hc
    obtain ⟨left, rest, rfl, hrest⟩ := Chain.exists_join hc.symm
    obtain ⟨term, rfl⟩ := alternates_iff.mp ht
    obtain ⟨links, rfl⟩ := Chain.exists_followedBy hrest.symm
    have hterm : term.terms = ⟨term, []⟩ := Chain.terms_of_multiplicative fun link hl =>
      Operator.tier_eq_multiplicative_iff.mpr
        (hops link.1 (List.mem_cons_of_mem _ (List.mem_flatMap.mpr ⟨link, hl, List.mem_cons_self⟩)))
    rw [reduce_toTokens, hterm, SumOfTerms.value_term] at hv
    have hvalue : Chain.terms ⟨v, []⟩ = ⟨⟨v, []⟩, []⟩ := rfl
    have hreduce := Chain.reduce_join_followedBy left hop hterm hvalue hv (Chain.additive_of_head? hr)
    have hnumber : Chain.toTokens ⟨v, []⟩ = [.number v] := rfl
    simpa only [Chain.toTokens_join, Chain.toTokens_followedBy, hnumber, List.append_assoc, List.cons_append,
      List.nil_append] using hreduce

theorem reduce_with_part_folded_to_division_by_zero :
    let n (k : Nat) : Token := .number (.ofRatio k 1)
    let quotient := [n 8, .operator .divide, n 4, .operator .divide, n 2]
    let difference := [n 9, .operator .minus, n 4, .operator .minus, n 3]
    let right := [.operator .plus, n 5, .operator .divide, n 0]
    reduce quotient = .ok (.ofRatio 1 1) ∧
      reduce ([n 7, .operator .minus] ++ quotient ++ right) = reduce ([n 7, .operator .minus] ++ [n 1] ++ right) ∧
      reduce difference = .ok (.ofRatio 2 1) ∧ reduce (difference ++ right) = reduce ([n 2] ++ right) := by
  intro n quotient difference right
  have hquotient : reduce quotient = .ok (.ofRatio 1 1) := by decide +kernel
  have hdifference : reduce difference = .ok (.ofRatio 2 1) := by decide +kernel
  have hops : ∀ op, .operator op ∈ quotient → op = .times ∨ op = .divide := by simp [quotient, n]
  have hleft : ∀ token ∈ [n 7, .operator .minus].getLast?, token.IsAdditive := by simp [Token.IsAdditive]
  have hright : ∀ token ∈ right.head?, token.IsAdditive := by simp [right, Token.IsAdditive]
  obtain ⟨hterm, hfront⟩ := reduce_with_part_folded
  refine ⟨hquotient, hterm _ quotient right _ ?_ hleft hright ?_ hops hquotient, hdifference,
    hfront difference right _ ?_ hright ?_ hdifference⟩
  · exact .operation (.operation (.operation (.operation (.operation .number))))
  · exact .operation (.operation .number)
  · exact .operation (.operation (.operation (.operation .number)))
  · exact .operation (.operation .number)

end Calculator
