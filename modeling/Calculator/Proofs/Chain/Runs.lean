import Calculator.Chain
import Calculator.Proofs.Operator
import Calculator.Proofs.Outcome
import Mathlib.Data.List.TakeWhile

/-!
# Runs of one tier

A pass over a chain cuts it at the operators of the other tier and folds each of the pieces from the left.
-/

namespace Calculator

namespace Chain

/-- Applies all the operators from left to right, whatever their tiers. The first failure ends it. -/
def fold (chain : Chain) : Except EvalError Double :=
  chain.links.foldlM (fun left link => link.1.apply left link.2) chain.head

/-- The links before the first operator of the other tier. -/
def run (tier : Tier) (links : List (Operator × Double)) : List (Operator × Double) :=
  links.takeWhile (·.1.tier = tier)

/-- The pieces after the first one. Each has the operator of the other tier that it starts at, and goes on to
the next of them. -/
def pieces (tier : Tier) : List (Operator × Double) → List (Operator × Chain)
  | [] => []
  | (op, value) :: rest =>
    if op.tier = tier then pieces tier rest else (op, ⟨value, run tier rest⟩) :: pieces tier rest

def foldPiece (piece : Operator × Chain) : Except EvalError (Operator × Double) := do
  let value ← piece.2.fold
  return (piece.1, value)

variable {tier : Tier} {op : Operator} {left right : Double} {links : List (Operator × Double)}

@[simp] theorem fold_nil (head : Double) : fold ⟨head, []⟩ = .ok head := rfl

@[simp] theorem fold_cons (left : Double) (op : Operator) (right : Double) (rest : List (Operator × Double)) :
    fold ⟨left, (op, right) :: rest⟩ = op.apply left right >>= fun value => fold ⟨value, rest⟩ := by
  simp [fold]

theorem fold_append (head : Double) (links more : List (Operator × Double)) :
    fold ⟨head, links ++ more⟩ = fold ⟨head, links⟩ >>= fun value => fold ⟨value, more⟩ :=
  List.foldlM_append

theorem isArithmetic_of_fold {chain : Chain} {e : EvalError} (h : chain.fold = .error e) : e.IsArithmetic := by
  obtain ⟨head, links⟩ := chain
  induction links generalizing head with
  | nil => cases h
  | cons link rest ih =>
      rw [fold_cons] at h
      rcases Outcome.bind_eq_error.mp h with h | ⟨value, _, h⟩
      · exact Operator.isArithmetic_of_apply h
      · exact ih value h

theorem run_cons_of_tier (h : op.tier = tier) :
    run tier ((op, right) :: links) = (op, right) :: run tier links := by
  simp [run, h]

theorem run_cons_of_other (h : op.tier ≠ tier) : run tier ((op, right) :: links) = [] := by
  simp [run, h]

theorem pieces_cons_of_tier (h : op.tier = tier) :
    pieces tier ((op, right) :: links) = pieces tier links := by
  simp [pieces, h]

theorem pieces_cons_of_other (h : op.tier ≠ tier) :
    pieces tier ((op, right) :: links) = (op, ⟨right, run tier links⟩) :: pieces tier links := by
  simp [pieces, h]

/-! ## The cut -/

theorem tier_of_mem_run {link : Operator × Double} (h : link ∈ run tier links) : link.1.tier = tier := by
  simpa using List.mem_takeWhile_imp h

theorem run_eq_self (h : ∀ link ∈ links, link.1.tier = tier) : run tier links = links :=
  List.takeWhile_eq_self_iff.mpr (by simpa using h)

theorem tier_of_mem_pieces {piece : Operator × Chain} (h : piece ∈ pieces tier links) :
    piece.1.tier ≠ tier ∧ ∀ link ∈ piece.2.links, link.1.tier = tier := by
  induction links with
  | nil => cases h
  | cons link rest ih =>
      obtain ⟨op, value⟩ := link
      by_cases ht : op.tier = tier
      · rw [pieces_cons_of_tier ht] at h
        exact ih h
      · rw [pieces_cons_of_other ht] at h
        rcases List.mem_cons.mp h with rfl | h
        · exact ⟨ht, fun _ hl => tier_of_mem_run hl⟩
        · exact ih h

theorem pieces_eq_nil (h : ∀ link ∈ links, link.1.tier = tier) : pieces tier links = [] := by
  induction links with
  | nil => rfl
  | cons link rest ih =>
      rw [pieces_cons_of_tier (h link (by simp))]
      exact ih (fun link hl => h link (by simp [hl]))

/-- The links of a piece, with the operator that joins it to the one before. -/
def pieceLinks (piece : Operator × Chain) : List (Operator × Double) :=
  (piece.1, piece.2.head) :: piece.2.links

theorem run_append_pieces (tier : Tier) (links : List (Operator × Double)) :
    run tier links ++ (pieces tier links).flatMap pieceLinks = links := by
  induction links with
  | nil => rfl
  | cons link rest ih =>
      obtain ⟨op, value⟩ := link
      by_cases ht : op.tier = tier
      · rw [run_cons_of_tier ht, pieces_cons_of_tier ht, List.cons_append, ih]
      · rw [run_cons_of_other ht, pieces_cons_of_other ht, List.nil_append, List.flatMap_cons, pieceLinks,
          List.cons_append, ih]

variable {rest : List (Operator × Double)}

/-- A piece does not go on behind an operator of the other tier. -/
theorem run_append (h : ∀ link ∈ rest.head?, link.1.tier ≠ tier) : run tier (links ++ rest) = run tier links := by
  induction links with
  | nil =>
      cases rest with
      | nil => rfl
      | cons link rest => exact run_cons_of_other (h link rfl)
  | cons link links ih =>
      obtain ⟨op, value⟩ := link
      by_cases ht : op.tier = tier
      · rw [List.cons_append, run_cons_of_tier ht, run_cons_of_tier ht, ih]
      · rw [List.cons_append, run_cons_of_other ht, run_cons_of_other ht]

theorem pieces_append (h : ∀ link ∈ rest.head?, link.1.tier ≠ tier) :
    pieces tier (links ++ rest) = pieces tier links ++ pieces tier rest := by
  induction links with
  | nil => rfl
  | cons link links ih =>
      obtain ⟨op, value⟩ := link
      by_cases ht : op.tier = tier
      · rw [List.cons_append, pieces_cons_of_tier ht, pieces_cons_of_tier ht, ih]
      · rw [List.cons_append, pieces_cons_of_other ht, pieces_cons_of_other ht, run_append h, ih, List.cons_append]

/-! ## A pass -/

-- The number on the left is a parameter, because each application that succeeds changes it.
theorem collapseFrom_eq (tier : Tier) (left : Double) (links : List (Operator × Double)) :
    collapseFrom tier left links = do
      let head ← fold ⟨left, run tier links⟩
      let links ← (pieces tier links).mapM foldPiece
      return ⟨head, links⟩ := by
  induction links generalizing left with
  | nil => rfl
  | cons link rest ih =>
      obtain ⟨op, right⟩ := link
      by_cases ht : op.tier = tier
      · rw [run_cons_of_tier ht, pieces_cons_of_tier ht, fold_cons, collapseFrom, if_pos ht]
        simp only [ih, bind_assoc]
      · rw [run_cons_of_other ht, pieces_cons_of_other ht, fold_nil, collapseFrom, if_neg ht]
        simp only [ih, List.mapM_cons, foldPiece, bind_assoc, Outcome.ok_bind, pure_bind]

/-- A pass folds the run at the head first, and then the pieces in order. -/
theorem collapse_eq (tier : Tier) (chain : Chain) :
    chain.collapse tier = do
      let head ← fold ⟨chain.head, run tier chain.links⟩
      let links ← (pieces tier chain.links).mapM foldPiece
      return ⟨head, links⟩ :=
  collapseFrom_eq tier chain.head chain.links

theorem foldPiece_operator {piece : Operator × Chain} {link : Operator × Double}
    (h : foldPiece piece = .ok link) : link.1 = piece.1 := by
  obtain ⟨value, _, he⟩ := Outcome.bind_eq_ok.mp h
  cases he
  rfl

/-- A pass leaves no operator of its tier. -/
theorem tier_of_mem_collapse {chain next : Chain} (h : chain.collapse tier = .ok next) :
    ∀ link ∈ next.links, link.1.tier ≠ tier := by
  rw [collapse_eq] at h
  obtain ⟨head, _, h⟩ := Outcome.bind_eq_ok.mp h
  obtain ⟨links, hm, h⟩ := Outcome.bind_eq_ok.mp h
  cases h
  have hops := Outcome.map_eq_of_mapM (fun _ _ hp => foldPiece_operator hp) hm
  intro link hl
  have hmem : link.1 ∈ links.map Prod.fst := List.mem_map_of_mem hl
  rw [hops] at hmem
  obtain ⟨piece, hp, he⟩ := List.mem_map.mp hmem
  rw [← he]
  exact (tier_of_mem_pieces hp).1

/-- A pass of a tier over operators of that tier alone leaves one number. -/
theorem collapse_of_tier (chain : Chain) (h : ∀ link ∈ chain.links, link.1.tier = tier) :
    chain.collapse tier = do
      let head ← chain.fold
      return ⟨head, []⟩ := by
  rw [collapse_eq, run_eq_self h, pieces_eq_nil h]
  rfl

end Chain

end Calculator
