import Calculator.Proofs.Chain.Precedence

/-!
# Reduction in place

The two passes on one flat sequence of tokens that shrinks while an index goes through it. An operator of the pass is
applied to the numbers beside it: the value takes the slot on the left, the other two slots are removed, and the index
stays. On a chain this comes to what reduction gives, and no number is missing where one is read.
-/

namespace Calculator

/-- A sequence of tokens and the place that a pass over it has come to. -/
structure Cursor where
  tokens : List Token
  index : Nat

namespace Cursor

inductive Fault where
  /-- There is no slot at this index, or it holds an operator. -/
  | noNumber (index : Nat)
  | application (error : EvalError)
  deriving DecidableEq

variable (cursor : Cursor)

def numberAt (index : Nat) : Except Fault Double :=
  match cursor.tokens[index]? with
  | some (.number value) => .ok value
  | _ => .error (.noNumber index)

/-- Nothing stands on the left of the first slot. -/
def left : Except Fault Double :=
  if cursor.index = 0 then .error (.noNumber 0) else cursor.numberAt (cursor.index - 1)

def right : Except Fault Double := cursor.numberAt (cursor.index + 1)

def advance : Cursor := { cursor with index := cursor.index + 1 }

/-- Puts the value into the slot on the left and removes the operator and the slot on the right. -/
def replace (value : Double) : Cursor :=
  { cursor with
    tokens := ((cursor.tokens.set (cursor.index - 1) (.number value)).eraseIdx cursor.index).eraseIdx cursor.index }

/-- Nothing is left to do at the end of the sequence. -/
def step (operators : List Operator) : Option (Except Fault Cursor) :=
  match cursor.tokens[cursor.index]? with
  | none => none
  | some (.number _) => some (.ok cursor.advance)
  | some (.operator op) =>
    if op ∈ operators then
      some do
        let left ← cursor.left
        let right ← cursor.right
        let value ← (op.apply left right).mapError .application
        return cursor.replace value
    else
      some (.ok cursor.advance)

/-- How many slots are still ahead. -/
def remaining : Nat := cursor.tokens.length - cursor.index

variable {cursor} {operators : List Operator}

theorem remaining_advance (h : cursor.index < cursor.tokens.length) :
    cursor.advance.remaining < cursor.remaining := by
  simp only [advance, remaining]
  omega

theorem remaining_replace (h : cursor.index < cursor.tokens.length) (value : Double) :
    (cursor.replace value).remaining < cursor.remaining := by
  simp only [replace, remaining, List.length_eraseIdx, List.length_set, h, ↓reduceIte]
  split <;> omega

theorem remaining_of_step {next : Cursor} (h : cursor.step operators = some (.ok next)) :
    next.remaining < cursor.remaining := by
  unfold step at h
  split at h
  · cases h
  · rename_i hi
    cases h
    exact remaining_advance (List.getElem?_eq_some_iff.mp hi).1
  · rename_i op hi
    have hlt := (List.getElem?_eq_some_iff.mp hi).1
    split at h
    · obtain ⟨_, _, h⟩ := Outcome.bind_eq_ok.mp (Option.some.inj h)
      obtain ⟨_, _, h⟩ := Outcome.bind_eq_ok.mp h
      obtain ⟨value, _, h⟩ := Outcome.bind_eq_ok.mp h
      cases h
      exact remaining_replace hlt value
    · cases h
      exact remaining_advance hlt

/-- Steps until the index is past the last slot, or a step fails. -/
def pass (operators : List Operator) (cursor : Cursor) : Except Fault (List Token) :=
  match _ : cursor.step operators with
  | none => .ok cursor.tokens
  | some (.error fault) => .error fault
  | some (.ok next) => pass operators next
termination_by cursor.remaining
decreasing_by exact remaining_of_step ‹_›

theorem pass_of_end (h : cursor.tokens.length ≤ cursor.index) : cursor.pass operators = .ok cursor.tokens := by
  have hs : cursor.step operators = none := by rw [step, List.getElem?_eq_none h]
  rw [pass]
  split <;> simp_all

theorem pass_of_step {next : Except Fault Cursor} (h : cursor.step operators = some next) :
    cursor.pass operators = next >>= pass operators := by
  rw [pass]
  split <;> rename_i hs <;> rw [h] at hs <;> cases hs
  · rfl
  · rfl

/-! ## Steps over a chain -/

variable {op : Operator} {out rest : List Token} {a b c : Token}

theorem left_eq (value : Double) : left ⟨out ++ .number value :: rest, out.length + 1⟩ = .ok value := by
  simp [left, numberAt]

theorem right_eq (value : Double) :
    right ⟨out ++ a :: b :: .number value :: rest, out.length + 1⟩ = .ok value := by
  have h : (out ++ a :: b :: .number value :: rest)[out.length + 1 + 1]? = some (.number value) := by
    rw [List.getElem?_append_right (by omega), show out.length + 1 + 1 - out.length = 2 by omega]
    rfl
  simp only [right, numberAt, h]

theorem replace_eq (value : Double) :
    replace ⟨out ++ a :: b :: c :: rest, out.length + 1⟩ value = ⟨out ++ .number value :: rest, out.length + 1⟩ := by
  simp [replace, List.eraseIdx_append_of_length_le]

theorem step_number (value : Double) :
    step ⟨out ++ .number value :: rest, out.length⟩ operators =
      some (.ok ⟨out ++ .number value :: rest, out.length + 1⟩) := by
  simp [step, advance]

theorem step_other (h : op ∉ operators) :
    step ⟨out ++ .operator op :: rest, out.length⟩ operators =
      some (.ok ⟨out ++ .operator op :: rest, out.length + 1⟩) := by
  simp [step, advance, h]

theorem step_operation (h : op ∈ operators) (left right : Double) :
    step ⟨out ++ .number left :: .operator op :: .number right :: rest, out.length + 1⟩ operators = some do
      let value ← (op.apply left right).mapError .application
      return ⟨out ++ .number value :: rest, out.length + 1⟩ := by
  have hop : (out ++ .number left :: .operator op :: .number right :: rest)[out.length + 1]? =
      some (.operator op) := by simp
  simp only [step, hop, h, ↓reduceIte, left_eq, right_eq, replace_eq, Outcome.ok_bind]

/-- An operator of the other pass is left behind together with the number in front of it. -/
theorem pass_other (h : op ∉ operators) (left right : Double) :
    pass operators ⟨out ++ .number left :: .operator op :: .number right :: rest, out.length + 1⟩ =
      pass operators ⟨(out ++ [Token.number left, .operator op]) ++ .number right :: rest,
        (out ++ [Token.number left, .operator op]).length + 1⟩ := by
  have hop := @step_other operators op (out ++ [.number left]) (.number right :: rest) h
  have hnumber := @step_number operators (out ++ [.number left, .operator op]) rest right
  simp only [List.append_assoc, List.cons_append, List.nil_append, List.length_append, List.length_cons,
    List.length_nil, Nat.zero_add] at hop hnumber ⊢
  rw [pass_of_step hop, Outcome.ok_bind, pass_of_step hnumber, Outcome.ok_bind]

/-! ## Passes over a chain -/

variable {tier : Tier}

-- What the pass has left behind may be anything. The number after it is the one that the next operator of the pass
-- takes.
theorem pass_links (h : ∀ op : Operator, op ∈ operators ↔ op.tier = tier) (out : List Token) (left : Double)
    (links : List (Operator × Double)) :
    pass operators ⟨out ++ .number left :: links.flatMap Chain.linkTokens, out.length + 1⟩ = do
      let chain ← (Chain.collapseFrom tier left links).mapError .application
      return out ++ chain.toTokens := by
  induction links generalizing out left with
  | nil => exact pass_of_end (by simp)
  | cons link links ih =>
      obtain ⟨op, right⟩ := link
      rw [List.flatMap_cons, Chain.linkTokens, List.cons_append, List.cons_append, List.nil_append,
        Chain.collapseFrom]
      by_cases ht : op.tier = tier
      · rw [pass_of_step (step_operation ((h op).mpr ht) left right), if_pos ht]
        cases op.apply left right with
        | error e => rfl
        | ok value => exact ih out value
      · rw [pass_other (fun hop => ht ((h op).mp hop)) left right, ih, if_neg ht]
        cases Chain.collapseFrom tier right links with
        | error e => rfl
        | ok chain => simp [Except.mapError, Chain.toTokens, Chain.linkTokens]

theorem pass_toTokens (h : ∀ op : Operator, op ∈ operators ↔ op.tier = tier) (chain : Chain) :
    pass operators ⟨chain.toTokens, 0⟩ = do
      let next ← (chain.collapse tier).mapError .application
      return next.toTokens := by
  have hnumber := @step_number operators [] (chain.links.flatMap Chain.linkTokens) chain.head
  rw [List.nil_append, List.length_nil] at hnumber
  rw [Chain.toTokens, pass_of_step hnumber]
  exact pass_links h [] chain.head chain.links

end Cursor

/-- Goes through the whole sequence for products and quotients, and then for sums and differences. -/
def reduceInPlace (tokens : List Token) : Except Cursor.Fault (List Token) := do
  let tokens ← Cursor.pass [.times, .divide] ⟨tokens, 0⟩
  Cursor.pass [.plus, .minus] ⟨tokens, 0⟩

theorem reduceInPlace_toTokens (chain : Chain) :
    reduceInPlace chain.toTokens = do
      let value ← (reduce chain.toTokens).mapError .application
      return [.number value] := by
  have hfirst : ∀ op : Operator, op ∈ [.times, .divide] ↔ op.tier = .multiplicative := by
    simp [Operator.tier_eq_multiplicative_iff]
  have hsecond : ∀ op : Operator, op ∈ [.plus, .minus] ↔ op.tier = .additive := by simp [Operator.tier_eq_additive_iff]
  rw [reduceInPlace, Cursor.pass_toTokens hfirst, reduce_eq_fold]
  cases ht : chain.collapse .multiplicative with
  | error e => rfl
  | ok terms =>
      have hadd := Cursor.pass_toTokens hsecond terms
      rw [Chain.collapse_additive ht] at hadd
      change Cursor.pass [.plus, .minus] ⟨terms.toTokens, 0⟩ = _
      rw [hadd, Outcome.ok_bind]
      cases terms.fold with
      | error e => rfl
      | ok value => rfl

/-- Each step brings a pass nearer to its end. On a chain no step misses a number beside an operator, and what is left
is one number, the value of the chain, unless an application fails, and then it is the same failure. -/
theorem reduce_agrees_in_place :
    (∀ operators cursor next, Cursor.step cursor operators = some (.ok next) → next.remaining < cursor.remaining) ∧
    ∀ chain : Chain,
      (∀ index, reduceInPlace chain.toTokens ≠ .error (.noNumber index)) ∧
      (∀ value, reduce chain.toTokens = .ok value ↔ reduceInPlace chain.toTokens = .ok [.number value]) ∧
      ∀ e, reduce chain.toTokens = .error e ↔ reduceInPlace chain.toTokens = .error (.application e) := by
  refine ⟨fun _ _ _ => Cursor.remaining_of_step, fun chain => ?_⟩
  rw [reduceInPlace_toTokens]
  cases reduce chain.toTokens with
  | error e => simp [Except.mapError]
  | ok value => simp [Except.mapError]

end Calculator
