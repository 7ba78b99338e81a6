import Calculator.Proofs.Chain.Alternation
import Calculator.Proofs.Chain.Precedence

/-!
# The first fault in an order of tokens

Which lists of tokens are refused for their order, and what they are told: the least place where a token of the wrong
kind stands, or the number that is missing at the end. The numbers are not looked at before.
-/

namespace Calculator

/-- Numbers with an operator between any two of them. -/
inductive Alternates : List Token → Prop
  | number {value : Double} : Alternates [.number value]
  | operation {value : Double} {op : Operator} {rest : List Token} (h : Alternates rest) :
      Alternates (.number value :: .operator op :: rest)

/-- An operator stands at an even place, or a number at an odd one. Places count from zero. -/
def MisplacedAt (tokens : List Token) (i : Nat) : Prop :=
  (i % 2 = 0 ∧ ∃ op, tokens[i]? = some (.operator op)) ∨ (i % 2 = 1 ∧ ∃ value, tokens[i]? = some (.number value))

structure FirstMisplacedAt (tokens : List Token) (i : Nat) : Prop where
  misplaced : MisplacedAt tokens i
  least : ∀ j < i, ¬MisplacedAt tokens j

/-- What is wrong first with the order of a list of tokens. -/
inductive IsFirstFault (tokens : List Token) : Malformation → Prop
  | empty (h : tokens = []) : IsFirstFault tokens .empty
  | leadingOperator (h : FirstMisplacedAt tokens 0) : IsFirstFault tokens .leadingOperator
  | adjacentOperators {i : Nat} (h : FirstMisplacedAt tokens i) (hpos : 0 < i) (heven : i % 2 = 0) :
      IsFirstFault tokens (.adjacentOperators i)
  | adjacentNumbers {i : Nat} (h : FirstMisplacedAt tokens i) (hodd : i % 2 = 1) :
      IsFirstFault tokens (.adjacentNumbers i)
  | trailingOperator (hne : tokens ≠ []) (h : ∀ i, ¬MisplacedAt tokens i) (heven : tokens.length % 2 = 0) :
      IsFirstFault tokens .trailingOperator

variable {tokens : List Token} {token : Token} {i : Nat} {m : Malformation}

/-! ## Places -/

theorem MisplacedAt.lt_length (h : MisplacedAt tokens i) : i < tokens.length := by
  rcases h with ⟨_, _, h⟩ | ⟨_, _, h⟩
  · exact (List.getElem?_eq_some_iff.mp h).1
  · exact (List.getElem?_eq_some_iff.mp h).1

theorem isMisplaced_iff (h : tokens[i]? = some token) : Token.isMisplaced (token, i) ↔ MisplacedAt tokens i := by
  cases token with
  | number value => simp [Token.isMisplaced, MisplacedAt, h]
  | operator op => simp [Token.isMisplaced, MisplacedAt, h]

theorem find?_isMisplaced_eq_none :
    tokens.zipIdx.find? Token.isMisplaced = none ↔ ∀ i, ¬MisplacedAt tokens i := by
  rw [List.find?_eq_none]
  constructor
  · intro h i hi
    have hlt := hi.lt_length
    have hget := List.getElem?_eq_getElem hlt
    exact h (tokens[i], i) (List.mem_zipIdx_iff_getElem?.mpr hget) ((isMisplaced_iff hget).mpr hi)
  · rintro h ⟨token, i⟩ hm hi
    exact h i ((isMisplaced_iff (List.mem_zipIdx_iff_getElem?.mp hm)).mp hi)

theorem find?_isMisplaced_eq_some :
    tokens.zipIdx.find? Token.isMisplaced = some (token, i) ↔
      tokens[i]? = some token ∧ FirstMisplacedAt tokens i := by
  rw [List.find?_eq_some_iff_getElem]
  constructor
  · rintro ⟨hp, j, hj, heq, hbefore⟩
    rw [List.length_zipIdx] at hj
    rw [List.getElem_zipIdx, Prod.mk.injEq, Nat.zero_add] at heq
    obtain ⟨rfl, rfl⟩ := heq
    have hget := List.getElem?_eq_getElem hj
    refine ⟨hget, (isMisplaced_iff hget).mp hp, fun k hk hmis => ?_⟩
    have hnot := hbefore k hk
    rw [List.getElem_zipIdx, Nat.zero_add,
      (isMisplaced_iff (List.getElem?_eq_getElem (hk.trans hj))).mpr hmis] at hnot
    cases hnot
  · rintro ⟨hget, hfirst⟩
    obtain ⟨hi, heq⟩ := List.getElem?_eq_some_iff.mp hget
    refine ⟨(isMisplaced_iff hget).mpr hfirst.misplaced, i, by simpa using hi, by simp [heq], fun j hj => ?_⟩
    have hnot := hfirst.least j hj
    rw [← isMisplaced_iff (List.getElem?_eq_getElem (hj.trans hi))] at hnot
    simpa using hnot

/-! ## Faults -/

theorem FirstMisplacedAt.firstFault?_eq (h : FirstMisplacedAt tokens i) (hget : tokens[i]? = some token) :
    Chain.firstFault? tokens = some (Token.misplacement (token, i)) := by
  have hne : tokens ≠ [] := List.ne_nil_of_length_pos (by have := h.misplaced.lt_length; omega)
  rw [Chain.firstFault?, if_neg hne, find?_isMisplaced_eq_some.mpr ⟨hget, h⟩]
  rfl

theorem IsFirstFault.firstFault?_eq (h : IsFirstFault tokens m) : Chain.firstFault? tokens = some m := by
  cases h with
  | empty h => rw [Chain.firstFault?, if_pos h]
  | leadingOperator h =>
      rcases h.misplaced with ⟨_, op, hget⟩ | ⟨hodd, _⟩
      · exact h.firstFault?_eq hget
      · cases hodd
  | @adjacentOperators i h hpos heven =>
      rcases h.misplaced with ⟨_, op, hget⟩ | ⟨hodd, _⟩
      · rw [h.firstFault?_eq hget, Token.misplacement, if_neg (by omega)]
      · omega
  | @adjacentNumbers i h hodd =>
      rcases h.misplaced with ⟨heven, _⟩ | ⟨_, value, hget⟩
      · omega
      · exact h.firstFault?_eq hget
  | trailingOperator hne h heven =>
      rw [Chain.firstFault?, if_neg hne, find?_isMisplaced_eq_none.mpr h, if_pos heven]
      rfl

theorem isFirstFault_of_firstFault? (h : Chain.firstFault? tokens = some m) : IsFirstFault tokens m := by
  by_cases hne : tokens = []
  · rw [Chain.firstFault?, if_pos hne] at h
    cases h
    exact .empty hne
  · rw [Chain.firstFault?, if_neg hne] at h
    cases hf : tokens.zipIdx.find? Token.isMisplaced with
    | none =>
        by_cases heven : tokens.length % 2 = 0
        · rw [hf, if_pos heven] at h
          cases h
          exact .trailingOperator hne (find?_isMisplaced_eq_none.mp hf) heven
        · rw [hf, if_neg heven] at h
          cases h
    | some x =>
        obtain ⟨token, i⟩ := x
        obtain ⟨hget, hfirst⟩ := find?_isMisplaced_eq_some.mp hf
        have hmis := List.find?_some hf
        rw [hf] at h
        cases token with
        | number value =>
            cases h
            exact .adjacentNumbers hfirst (by simpa [Token.isMisplaced] using hmis)
        | operator op =>
            have heven : i % 2 = 0 := by simpa [Token.isMisplaced] using hmis
            by_cases hi : i = 0
            · subst hi
              cases h
              exact .leadingOperator hfirst
            · simp only [Option.map_some, Token.misplacement, if_neg hi, Option.some_or] at h
              cases h
              exact .adjacentOperators hfirst (by omega) heven

theorem isFirstFault_iff : IsFirstFault tokens m ↔ Chain.ofTokens tokens = .error m := by
  rw [Chain.ofTokens_eq_error]
  exact ⟨IsFirstFault.firstFault?_eq, isFirstFault_of_firstFault?⟩

/-- The token before the first misplaced number is a number in its place. -/
theorem FirstMisplacedAt.number_before {j : Nat} (h : FirstMisplacedAt tokens (j + 1)) (heven : j % 2 = 0) :
    ∃ value, tokens[j]? = some (.number value) := by
  have hlt : j < tokens.length := Nat.lt_of_succ_lt h.misplaced.lt_length
  obtain ⟨token, hget⟩ : ∃ token, tokens[j]? = some token := ⟨_, List.getElem?_eq_getElem hlt⟩
  cases token with
  | number value => exact ⟨value, hget⟩
  | operator op => exact absurd (.inl ⟨heven, op, hget⟩) (h.least j (Nat.lt_succ_self j))

theorem ofTokens_ne_adjacentNumbers (hc : Token.NoAdjacentNumbers tokens) (i : Nat) :
    Chain.ofTokens tokens ≠ .error (.adjacentNumbers i) := by
  intro h
  cases isFirstFault_iff.mpr h with
  | adjacentNumbers hfirst hodd =>
      obtain ⟨j, rfl⟩ : ∃ j, i = j + 1 := ⟨i - 1, by omega⟩
      obtain ⟨before, hbefore⟩ := hfirst.number_before (by omega)
      obtain ⟨value, hvalue⟩ : ∃ value, tokens[j + 1]? = some (.number value) :=
        (hfirst.misplaced.resolve_left (by omega)).2
      obtain ⟨_, hbefore⟩ := List.getElem?_eq_some_iff.mp hbefore
      obtain ⟨hlt, hvalue⟩ := List.getElem?_eq_some_iff.mp hvalue
      have hadjacent := List.isChain_iff_getElem.mp hc j hlt
      rw [hbefore, hvalue] at hadjacent
      exact hadjacent ⟨rfl, rfl⟩

/-! ## Alternations -/

theorem alternates_toTokens (chain : Chain) : Alternates chain.toTokens := by
  obtain ⟨head, links⟩ := chain
  induction links generalizing head with
  | nil => exact .number
  | cons link links ih => exact .operation (ih link.2)

theorem alternates_iff : Alternates tokens ↔ ∃ chain : Chain, tokens = chain.toTokens := by
  constructor
  · intro h
    induction h with
    | @number value => exact ⟨⟨value, []⟩, rfl⟩
    | @operation value op rest _ ih =>
        obtain ⟨chain, rfl⟩ := ih
        exact ⟨⟨value, (op, chain.head) :: chain.links⟩, rfl⟩
  · rintro ⟨chain, rfl⟩
    exact alternates_toTokens chain

theorem not_alternates_iff : ¬Alternates tokens ↔ ∃ m, Chain.ofTokens tokens = .error m := by
  simp only [alternates_iff, ← Chain.ofTokens_eq_ok]
  cases Chain.ofTokens tokens with
  | ok chain => simp
  | error m => simp

/-- Reduction refuses a list of tokens for its order just when it is no alternation, whatever its numbers come to. It then
names the first fault, at a place in the list. -/
theorem reduce_malformed_iff (tokens : List Token) :
    ((∃ m, reduce tokens = .error (.malformed m)) ↔ ¬Alternates tokens) ∧
      (∀ m, reduce tokens = .error (.malformed m) ↔ IsFirstFault tokens m) ∧
      ∀ i, (reduce tokens = .error (.malformed (.adjacentOperators i)) ∨
        reduce tokens = .error (.malformed (.adjacentNumbers i))) → i < tokens.length := by
  refine ⟨?_, fun m => ?_, ?_⟩
  · simp only [reduce_eq_malformed, not_alternates_iff]
  · rw [reduce_eq_malformed, isFirstFault_iff]
  · rintro i (h | h)
    · cases isFirstFault_iff.mpr (reduce_eq_malformed.mp h) with
      | adjacentOperators hfirst _ _ => exact hfirst.misplaced.lt_length
    · cases isFirstFault_iff.mpr (reduce_eq_malformed.mp h) with
      | adjacentNumbers hfirst _ => exact hfirst.misplaced.lt_length

end Calculator
