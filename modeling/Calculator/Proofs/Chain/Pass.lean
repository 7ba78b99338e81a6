import Calculator.Proofs.Chain.Joined
import Mathlib.Data.List.Induction

/-!
# What a pass leaves and where it fails

A pass as a loop over the links. A link of the other tier is put out behind the others, and one of the tier changes the
number put out last, which is what the run of the tier comes to so far.
-/

namespace Calculator

namespace Chain

/-! ## The last number -/

def operators (chain : Chain) : List Operator := chain.links.map Prod.fst

def last (chain : Chain) : Double := (chain.links.getLast?.map Prod.snd).getD chain.head

def setLast (chain : Chain) (value : Double) : Chain :=
  match chain.links.getLast? with
  | none => { chain with head := value }
  | some link => { chain with links := chain.links.dropLast ++ [(link.1, value)] }

variable {chain out next before : Chain} {link : Operator × Double} {links : List (Operator × Double)} {tier : Tier}
  {op : Operator} {value : Double} {e : EvalError}

@[simp] theorem operators_followedBy (chain : Chain) (links : List (Operator × Double)) :
    (chain.followedBy links).operators = chain.operators ++ links.map Prod.fst := List.map_append

@[simp] theorem followedBy_followedBy (chain : Chain) (links more : List (Operator × Double)) :
    (chain.followedBy links).followedBy more = chain.followedBy (links ++ more) := by
  simp [followedBy]

@[simp] theorem last_followedBy (chain : Chain) (link : Operator × Double) : (chain.followedBy [link]).last = link.2 := by
  simp [last, followedBy]

@[simp] theorem setLast_followedBy (chain : Chain) (link : Operator × Double) (value : Double) :
    (chain.followedBy [link]).setLast value = chain.followedBy [(link.1, value)] := by
  simp [setLast, followedBy]

/-- A chain is its head alone, or ends in a link. -/
@[elab_as_elim]
theorem cases_last {p : Chain → Prop} (alone : ∀ head, p ⟨head, []⟩)
    (behind : ∀ front link, p (followedBy front [link])) (chain : Chain) : p chain := by
  obtain ⟨head, links⟩ := chain
  rcases List.eq_nil_or_concat links with rfl | ⟨front, link, rfl⟩
  · exact alone head
  · rw [List.concat_eq_append]
    exact behind ⟨head, front⟩ link

@[simp] theorem operators_setLast (chain : Chain) (value : Double) :
    (chain.setLast value).operators = chain.operators := by
  cases chain using cases_last with
  | alone head => rfl
  | behind front link => simp

@[simp] theorem last_setLast (chain : Chain) (value : Double) : (chain.setLast value).last = value := by
  cases chain using cases_last with
  | alone head => rfl
  | behind front link => simp

@[simp] theorem setLast_setLast (chain : Chain) (value value' : Double) :
    (chain.setLast value).setLast value' = chain.setLast value' := by
  cases chain using cases_last with
  | alone head => rfl
  | behind front link => simp

@[simp] theorem setLast_last (chain : Chain) : chain.setLast chain.last = chain := by
  cases chain using cases_last with
  | alone head => rfl
  | behind front link => simp

/-! ## The loop -/

/-- One turn of a pass. -/
def emit (tier : Tier) (out : Chain) (link : Operator × Double) : Except EvalError Chain :=
  if link.1.tier = tier then do
    let value ← link.1.apply out.last link.2
    return out.setLast value
  else
    .ok (out.followedBy [link])

theorem emit_of_tier (h : link.1.tier = tier) :
    emit tier out link = link.1.apply out.last link.2 >>= fun value => .ok (out.setLast value) := if_pos h

theorem emit_of_other (h : link.1.tier ≠ tier) : emit tier out link = .ok (out.followedBy [link]) := if_neg h

theorem emit_eq_error : emit tier out link = .error e ↔ link.1.tier = tier ∧ link.1.apply out.last link.2 = .error e := by
  by_cases ht : link.1.tier = tier
  · rw [emit_of_tier ht, Outcome.bind_eq_error]
    simp [ht]
  · rw [emit_of_other ht]
    simp [ht]

-- Only the last number put out counts for what follows, so the rest of the pass may start from it.
theorem foldlM_emit (tier : Tier) (out : Chain) (links : List (Operator × Double)) :
    links.foldlM (emit tier) out = do
      let next ← collapseFrom tier out.last links
      return (out.setLast next.head).followedBy next.links := by
  induction links generalizing out with
  | nil => simp [collapseFrom, followedBy]
  | cons link links ih =>
      obtain ⟨op, right⟩ := link
      rw [List.foldlM_cons, collapseFrom]
      by_cases ht : op.tier = tier
      · rw [emit_of_tier ht, if_pos ht]
        simp only [bind_assoc, Outcome.ok_bind, ih, last_setLast, setLast_setLast]
      · rw [emit_of_other ht, if_neg ht, Outcome.ok_bind, ih, last_followedBy]
        simp only [bind_assoc, Outcome.pure_eq, Outcome.ok_bind, setLast_followedBy, setLast_last, followedBy_followedBy,
          List.singleton_append]

theorem collapse_eq_foldlM (tier : Tier) (chain : Chain) :
    chain.collapse tier = chain.links.foldlM (emit tier) ⟨chain.head, []⟩ := by
  rw [foldlM_emit]
  exact (bind_pure _).symm

/-- A pass goes on behind a chain from what it has put out for the chain. -/
theorem collapse_followedBy (tier : Tier) (chain : Chain) (links : List (Operator × Double)) :
    (chain.followedBy links).collapse tier = chain.collapse tier >>= fun out => links.foldlM (emit tier) out := by
  rw [collapse_eq_foldlM, collapse_eq_foldlM]
  exact List.foldlM_append

/-! ## What has been put out -/

/-- The number behind the last operator of the other tier, or the head, with the run of the tier from there to the end. What
the run comes to is what an operator of the tier, put behind the chain, has on its left. -/
def lastPiece (tier : Tier) (chain : Chain) : Chain :=
  chain.links.foldl (fun piece link => if link.1.tier = tier then piece.followedBy [link] else ⟨link.2, []⟩)
    ⟨chain.head, []⟩

theorem lastPiece_followedBy (chain : Chain) (link : Operator × Double) :
    lastPiece tier (chain.followedBy [link]) =
      if link.1.tier = tier then (lastPiece tier chain).followedBy [link] else ⟨link.2, []⟩ := by
  simp [lastPiece, followedBy]

structure Emitted (tier : Tier) (chain out : Chain) : Prop where
  operators : out.operators = chain.operators.filter (·.tier ≠ tier)
  last : (lastPiece tier chain).fold = .ok out.last

theorem Emitted.step (h : Emitted tier chain out) (hs : emit tier out link = .ok next) :
    Emitted tier (chain.followedBy [link]) next := by
  by_cases ht : link.1.tier = tier
  · rw [emit_of_tier ht] at hs
    obtain ⟨value, hv, hs⟩ := Outcome.bind_eq_ok.mp hs
    cases hs
    constructor
    · simp [h.operators, ht]
    · rw [lastPiece_followedBy, if_pos ht, followedBy, fold_append, h.last, Outcome.ok_bind, fold_cons, hv,
        Outcome.ok_bind, fold_nil, last_setLast]
  · rw [emit_of_other ht] at hs
    cases hs
    constructor
    · simp [h.operators, ht]
    · rw [lastPiece_followedBy, if_neg ht, fold_nil, last_followedBy]

theorem Emitted.run (h : Emitted tier chain out) (hs : links.foldlM (emit tier) out = .ok next) :
    Emitted tier (chain.followedBy links) next := by
  induction links generalizing chain out with
  | nil =>
      cases hs
      simpa [followedBy] using h
  | cons link links ih =>
      rw [List.foldlM_cons] at hs
      obtain ⟨out', hlink, hs⟩ := Outcome.bind_eq_ok.mp hs
      simpa using ih (h.step hlink) hs

theorem emitted_collapse (h : chain.collapse tier = .ok out) : Emitted tier chain out := by
  rw [collapse_eq_foldlM] at h
  have hstart : Emitted tier ⟨chain.head, []⟩ ⟨chain.head, []⟩ := ⟨rfl, rfl⟩
  exact hstart.run h

/-! ## Operators that are left -/

/-- A pass has nothing to do where no operator is of its tier. -/
theorem collapse_of_other (h : ∀ link ∈ chain.links, link.1.tier ≠ tier) : chain.collapse tier = .ok chain := by
  obtain ⟨head, links⟩ := chain
  induction links generalizing head with
  | nil => rfl
  | cons link links ih =>
      obtain ⟨hlink, hlinks⟩ := List.forall_mem_cons.mp h
      have hrest : collapseFrom tier link.2 links = .ok ⟨link.2, links⟩ := ih link.2 hlinks
      rw [collapse, collapseFrom, if_neg hlink, hrest]
      rfl

theorem fold_run_of_collapse (h : chain.collapse tier = .ok next) :
    fold ⟨chain.head, run tier chain.links⟩ = .ok next.head := by
  rw [collapse_eq] at h
  obtain ⟨head, hhead, h⟩ := Outcome.bind_eq_ok.mp h
  obtain ⟨links, _, h⟩ := Outcome.bind_eq_ok.mp h
  cases h
  exact hhead

theorem exists_operand_of_collapse (h : (before.followedBy ((op, value) :: links)).collapse tier = .ok next)
    (ht : op.tier ≠ tier) :
    ∃ front operand back, next = followedBy front ((op, operand) :: back) ∧
      front.operators = before.operators.filter (·.tier ≠ tier) ∧ fold ⟨value, run tier links⟩ = .ok operand := by
  rw [collapse_followedBy] at h
  obtain ⟨front, hfront, h⟩ := Outcome.bind_eq_ok.mp h
  rw [List.foldlM_cons, emit_of_other ht, Outcome.ok_bind, foldlM_emit, last_followedBy] at h
  obtain ⟨rest, hrest, h⟩ := Outcome.bind_eq_ok.mp h
  cases h
  refine ⟨front, rest.head, rest.links, by simp, (emitted_collapse hfront).operators, ?_⟩
  have hpiece : collapse tier ⟨value, links⟩ = .ok rest := hrest
  exact fold_run_of_collapse hpiece

/-! ## Failures -/

/-- What comes before the first operator of the tier whose application fails. -/
structure FirstFailure (tier : Tier) (chain before : Chain) (e : EvalError) : Prop where
  failure : ∃ link after left, chain = before.followedBy (link :: after) ∧ link.1.tier = tier ∧
    (lastPiece tier before).fold = .ok left ∧ link.1.apply left link.2 = .error e
  first : ∀ front link back, before = front.followedBy (link :: back) → link.1.tier = tier →
    ∃ left value, (lastPiece tier front).fold = .ok left ∧ link.1.apply left link.2 = .ok value

theorem exists_application_of_collapse (h : (before.followedBy (link :: links)).collapse tier = .ok out)
    (ht : link.1.tier = tier) :
    ∃ left value, (lastPiece tier before).fold = .ok left ∧ link.1.apply left link.2 = .ok value := by
  rw [collapse_followedBy] at h
  obtain ⟨front, hfront, h⟩ := Outcome.bind_eq_ok.mp h
  rw [List.foldlM_cons, emit_of_tier ht, bind_assoc] at h
  obtain ⟨value, hvalue, _⟩ := Outcome.bind_eq_ok.mp h
  exact ⟨front.last, value, (emitted_collapse hfront).last, hvalue⟩

theorem exists_firstFailure (h : chain.collapse tier = .error e) : ∃ before, FirstFailure tier chain before e := by
  obtain ⟨head, links⟩ := chain
  rw [collapse_eq_foldlM] at h
  obtain ⟨before, link, after, out, rfl, hout, he⟩ := Outcome.foldlM_eq_error.mp h
  obtain ⟨ht, he⟩ := emit_eq_error.mp he
  rw [← collapse_eq_foldlM tier ⟨head, before⟩] at hout
  refine ⟨⟨head, before⟩, ⟨link, after, out.last, rfl, ht, (emitted_collapse hout).last, he⟩, ?_⟩
  intro front link back hb ht
  rw [hb] at hout
  exact exists_application_of_collapse hout ht

theorem FirstFailure.collapse_eq (h : FirstFailure tier chain before e) : chain.collapse tier = .error e := by
  obtain ⟨link, after, left, rfl, ht, hleft, he⟩ := h.failure
  cases hb : before.collapse tier with
  | ok out =>
      rw [(emitted_collapse hb).last] at hleft
      cases hleft
      rw [collapse_followedBy, hb, Outcome.ok_bind, List.foldlM_cons, emit_eq_error.mpr ⟨ht, he⟩, Outcome.error_bind]
  | error e' =>
      -- Before the failure there would be an earlier one.
      obtain ⟨front, hfront⟩ := exists_firstFailure hb
      obtain ⟨link', back, left', hsplit, ht', hleft', he'⟩ := hfront.failure
      obtain ⟨_, value, hfold, hvalue⟩ := h.first front link' back hsplit ht'
      rw [hleft'] at hfold
      cases hfold
      rw [he'] at hvalue
      cases hvalue

end Chain

/-- A pass that succeeds keeps the operators of the other tier in their order. The number at the head and the one behind each
of them is what it comes to with the run of the tier that follows, and another pass changes nothing. A pass fails as the
first application that fails. After both passes no operator is left. -/
theorem collapse_folds_runs (tier : Tier) (chain : Chain) :
    (∀ next, chain.collapse tier = .ok next →
      next.operators = chain.operators.filter (·.tier ≠ tier) ∧
      Chain.fold ⟨chain.head, Chain.run tier chain.links⟩ = .ok next.head ∧
      (∀ (before : Chain) op value after, chain = before.followedBy ((op, value) :: after) → op.tier ≠ tier →
        ∃ (front : Chain) (operand : Double) (back : List (Operator × Double)),
          next = front.followedBy ((op, operand) :: back) ∧
          front.operators = before.operators.filter (·.tier ≠ tier) ∧
          Chain.fold ⟨value, Chain.run tier after⟩ = .ok operand) ∧
      next.collapse tier = .ok next) ∧
    (∀ e, chain.collapse tier = .error e ↔ ∃ before, Chain.FirstFailure tier chain before e) ∧
    ∀ terms sum, chain.collapse .multiplicative = .ok terms → terms.collapse .additive = .ok sum → sum.links = [] := by
  refine ⟨fun next h => ⟨(Chain.emitted_collapse h).operators, Chain.fold_run_of_collapse h, ?_,
    Chain.collapse_of_other (Chain.tier_of_mem_collapse h)⟩,
    fun e => ⟨Chain.exists_firstFailure, fun ⟨_, hb⟩ => hb.collapse_eq⟩, ?_⟩
  · rintro before op value after rfl ht
    exact Chain.exists_operand_of_collapse h ht
  · intro terms sum hterms hsum
    rw [Chain.collapse_additive hterms] at hsum
    obtain ⟨value, _, hsum⟩ := Outcome.bind_eq_ok.mp hsum
    cases hsum
    rfl

theorem collapse_folds_runs_of_mixed_tiers :
    let n (k : Nat) : Double := .ofRatio k 1
    let chain : Chain := ⟨n 8, [(.divide, n 4), (.divide, n 2), (.minus, n 3), (.times, n 5), (.plus, n 1)]⟩
    let terms : Chain := ⟨n 1, [(.minus, n 15), (.plus, n 1)]⟩
    let failing : Chain := ⟨n 7, [(.minus, n 1), (.divide, 0), (.times, n 5)]⟩
    (chain.collapse .multiplicative = .ok terms ∧
      Chain.fold ⟨chain.head, Chain.run .multiplicative chain.links⟩ = .ok terms.head ∧
      (∃ (front : Chain) (operand : Double) (back : List (Operator × Double)),
        terms = front.followedBy ((.minus, operand) :: back) ∧ front.operators = [] ∧
        Chain.fold ⟨n 3, Chain.run .multiplicative [(.times, n 5), (.plus, n 1)]⟩ = .ok operand) ∧
      terms.collapse .multiplicative = .ok terms) ∧
    (∃ before, Chain.FirstFailure .multiplicative failing before .divisionByZero) ∧
    ∃ sum, terms.collapse .additive = .ok sum ∧ sum.links = [] := by
  intro n chain terms failing
  have hterms : chain.collapse .multiplicative = .ok terms := by decide +kernel
  have hfailing : failing.collapse .multiplicative = .error .divisionByZero := by decide +kernel
  have hsum : terms.collapse .additive = .ok ⟨-n 13, []⟩ := by decide +kernel
  obtain ⟨hok, _, hempty⟩ := collapse_folds_runs .multiplicative chain
  obtain ⟨_, herror, _⟩ := collapse_folds_runs .multiplicative failing
  obtain ⟨_, hhead, hoperand, hagain⟩ := hok terms hterms
  have hminus := hoperand ⟨n 8, [(.divide, n 4), (.divide, n 2)]⟩ .minus (n 3) _ rfl (by decide)
  exact ⟨⟨hterms, hhead, hminus, hagain⟩, (herror _).mp hfailing, _, hsum, hempty terms _ hterms hsum⟩

end Calculator
