import Calculator.Chain
import Calculator.Proofs.Outcome
import Mathlib.Data.List.Chain

/-!
# Alternation

What is wrong with a list of tokens that is no chain, as a property of the list: the first token that stands where
one of the other kind is due, or else the number that is missing at the end.
-/

namespace Calculator

namespace Token

def isNumber : Token → Bool
  | number _ => true
  | operator _ => false

/-- Numbers are due at even places and operators at odd ones. -/
def isMisplaced : Token × Nat → Bool
  | (number _, i) => i % 2 = 1
  | (operator _, i) => i % 2 = 0

def NoAdjacentNumbers (tokens : List Token) : Prop := tokens.IsChain fun a b => ¬(a.isNumber ∧ b.isNumber)

def misplacement : Token × Nat → Malformation
  | (number _, i) => .adjacentNumbers i
  | (operator _, i) => if i = 0 then .leadingOperator else .adjacentOperators i

end Token

namespace Chain

/-- The first fault of a list of tokens, whose numbers play no part in it. -/
def firstFault? (tokens : List Token) : Option Malformation :=
  if tokens = [] then
    some .empty
  else
    ((tokens.zipIdx.find? Token.isMisplaced).map Token.misplacement).or
      (if tokens.length % 2 = 0 then some .trailingOperator else none)

variable {tokens : List Token} {position : Nat} {m : Malformation}

-- Behind the first number the parities are turned round: a list of odd length lacks its last number.
theorem linksOfTokens_eq_error (h : position % 2 = 1) :
    linksOfTokens position tokens = .error m ↔
      (((tokens.zipIdx position).find? Token.isMisplaced).map Token.misplacement).or
        (if tokens.length % 2 = 1 then some .trailingOperator else none) = some m := by
  fun_induction linksOfTokens position tokens with
  | case1 => simp
  | case2 position value rest => simp [Token.isMisplaced, Token.misplacement, h]
  | case3 position op => simp [Token.isMisplaced, h]
  | case4 position op op' rest =>
      have h' : (position + 1) % 2 = 0 := by omega
      simp [Token.isMisplaced, Token.misplacement, h, h']
  | case5 position op value rest ih =>
      have h' : (position + 1) % 2 = 0 := by omega
      have hlen : (rest.length + 1 + 1) % 2 = rest.length % 2 := by omega
      have hih := ih (by omega)
      simp only [Outcome.bind_eq_error, Outcome.pure_eq, reduceCtorEq, and_false, exists_false, or_false, hih]
      simp [Token.isMisplaced, h, h', hlen]

theorem ofTokens_eq_error : ofTokens tokens = .error m ↔ firstFault? tokens = some m := by
  match tokens with
  | [] => simp [ofTokens, firstFault?]
  | .operator op :: rest => simp [ofTokens, firstFault?, Token.isMisplaced, Token.misplacement]
  | .number value :: rest =>
      have hlen : (rest.length + 1) % 2 = 0 ↔ rest.length % 2 = 1 := by omega
      have hlinks := @linksOfTokens_eq_error rest 1 m rfl
      simp only [ofTokens, Outcome.bind_eq_error, Outcome.pure_eq, reduceCtorEq, and_false, exists_false, or_false,
        hlinks]
      simp [firstFault?, Token.isMisplaced, hlen]

theorem noAdjacentNumbers_toTokens (chain : Chain) : Token.NoAdjacentNumbers chain.toTokens := by
  obtain ⟨head, links⟩ := chain
  induction links generalizing head with
  | nil => exact .singleton _
  | cons link links ih => exact .cons_cons (by simp [Token.isNumber]) (.cons_cons (by simp [Token.isNumber]) (ih link.2))

end Chain

end Calculator
