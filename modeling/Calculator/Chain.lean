import Calculator.Token

/-!
# Chains

Numbers joined by operators, which a list of tokens is when numbers and operators alternate and a number
stands at either end. A chain is reduced in two passes from left to right, the multiplicative tier first.
-/

namespace Calculator

/-- A number, and the operators that follow it, each with the number on its right. -/
structure Chain where
  head : Double
  links : List (Operator × Double)
  deriving DecidableEq

namespace Chain

/-- The links that start at a position of a list of tokens, where an operator is due. -/
def linksOfTokens (position : Nat) : List Token → Except Malformation (List (Operator × Double))
  | [] => .ok []
  | .number _ :: _ => .error (.adjacentNumbers position)
  | [.operator _] => .error .trailingOperator
  | .operator _ :: .operator _ :: _ => .error (.adjacentOperators (position + 1))
  | .operator op :: .number value :: rest => do
    let links ← linksOfTokens (position + 2) rest
    return (op, value) :: links

def ofTokens : List Token → Except Malformation Chain
  | [] => .error .empty
  | .operator _ :: _ => .error .leadingOperator
  | .number value :: rest => do
    let links ← linksOfTokens 1 rest
    return ⟨value, links⟩

def linkTokens (link : Operator × Double) : List Token := [.operator link.1, .number link.2]

/-- The tokens of the chain in order. -/
def toTokens (chain : Chain) : List Token := .number chain.head :: chain.links.flatMap linkTokens

/-! ## Reading back

The lists of tokens that are chains are just the lists that chains are written as. -/

theorem linksOfTokens_eq_ok {position : Nat} {tokens : List Token} {links : List (Operator × Double)} :
    linksOfTokens position tokens = .ok links ↔ tokens = links.flatMap linkTokens := by
  fun_induction linksOfTokens position tokens generalizing links with
  | case1 => cases links <;> simp [linkTokens]
  | case2 => cases links <;> simp [linkTokens]
  | case3 => cases links <;> simp [linkTokens]
  | case4 => cases links <;> simp [linkTokens]
  | case5 position op value rest ih =>
    cases links with
    | nil => cases h : linksOfTokens (position + 2) rest <;> simp [bind, Except.bind, pure, Except.pure]
    | cons link links =>
      obtain ⟨op', value'⟩ := link
      have ih := @ih links
      cases h : linksOfTokens (position + 2) rest <;>
        simp_all [linkTokens, bind, Except.bind, pure, Except.pure, and_assoc]

theorem ofTokens_eq_ok {tokens : List Token} {chain : Chain} :
    ofTokens tokens = .ok chain ↔ tokens = chain.toTokens := by
  obtain ⟨head, links⟩ := chain
  match tokens with
  | [] => simp [ofTokens, toTokens]
  | .operator op :: rest => simp [ofTokens, toTokens]
  | .number value :: rest =>
    have := @linksOfTokens_eq_ok 1 rest links
    cases h : linksOfTokens 1 rest <;> simp_all [ofTokens, toTokens, bind, Except.bind, pure, Except.pure]

/-! ## Reduction -/

/-- How many tokens the chain is. -/
def size (chain : Chain) : Nat := 1 + 2 * chain.links.length

/-- Applies the operators of a tier from left to right. Each takes the number before it, which is the result
of the operators of the tier just before, and the first failure ends the pass. -/
def collapseFrom (tier : Tier) (left : Double) : List (Operator × Double) → Except EvalError Chain
  | [] => .ok ⟨left, []⟩
  | (op, right) :: rest =>
    if op.tier = tier then do
      let value ← op.apply left right
      collapseFrom tier value rest
    else do
      let next ← collapseFrom tier right rest
      return ⟨left, (op, next.head) :: next.links⟩

def collapse (tier : Tier) (chain : Chain) : Except EvalError Chain :=
  collapseFrom tier chain.head chain.links

end Chain

/-- The value of a list of tokens. -/
def reduce (tokens : List Token) : Except EvalError Double := do
  let chain ← (Chain.ofTokens tokens).mapError EvalError.malformed
  let terms ← chain.collapse .multiplicative
  let sum ← terms.collapse .additive
  if sum.links.isEmpty then
    .ok sum.head
  else
    .error (Malformation.unreduced sum.size)

end Calculator
