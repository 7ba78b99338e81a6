import Calculator.Proofs.Chain.Height
import Calculator.Proofs.Double.Exact
import Calculator.Proofs.Evaluation.ZeroDivision
import Calculator.Proofs.Sample.Always
import Calculator.Proofs.Sample.Campaign
import Calculator.Proofs.SinglePass

/-!
# Samples of expressions

What the samples of expressions are, whatever the seed, and that the campaign that compares both evaluations on them
cannot fail. Numbers below `2 ^ 7` reach no further than `7`, so a hundred operators are too few to overflow.
-/

namespace Calculator

open Magnitude (quantaPerOne quantaPerOne_pos)

variable {x y : Double} {n k : Nat} {chain : Chain}

/-! ## Quarters -/

namespace Double

/-- Exactly so many quarters, with no sign. -/
structure IsQuarters (x : Double) (n : Nat) : Prop where
  isFinite : x.isFinite
  isNegative : x.isNegative = false
  quanta : 4 * x.quanta = quantaPerOne * n

theorem isQuarters_signed {m : Magnitude} (hf : m.isInfinite = false) (hm : 4 * m.quanta = quantaPerOne * n) :
    (signed false m).IsQuarters n := by
  refine ⟨isFinite_signed_iff.mpr hf, rfl, ?_⟩
  exact_mod_cast congrArg Int.ofNat hm

theorem isQuarters_ofRatio (h : n ≤ 2 ^ (53 : Nat)) : (ofRatio n 4).IsQuarters n := by
  obtain ⟨m, hm, hf⟩ : ∃ m : Magnitude, 4 * m.quanta = quantaPerOne * n ∧ m.isInfinite = false :=
    Magnitude.exists_dyadic (k := 2) (by decide) h
  rw [ofRatio, ← hm, Magnitude.nearest_quanta m (by decide)]
  exact isQuarters_signed hf hm

theorem isQuarters_ofRatio_one (h : n ≤ 2 ^ (53 : Nat)) : (ofRatio n 1).IsQuarters (4 * n) := by
  obtain ⟨m, hm, hf⟩ := Magnitude.exists_quanta h
  rw [ofRatio, ← hm, Magnitude.nearest_one]
  exact isQuarters_signed hf (by rw [hm, Nat.mul_left_comm])

namespace IsQuarters

theorem exists_magnitude (h : x.IsQuarters n) :
    ∃ m, x = signed false m ∧ m.isInfinite = false ∧ 4 * m.quanta = quantaPerOne * n := by
  obtain ⟨m, rfl, hf⟩ := eq_signed_of_isFinite h.isFinite h.isNegative
  have hm : (4 : Int) * m.quanta = quantaPerOne * n := h.quanta
  exact ⟨m, rfl, hf, by exact_mod_cast hm⟩

theorem eq (hx : x.IsQuarters n) (hy : y.IsQuarters n) : x = y := by
  obtain ⟨a, rfl, _, ha⟩ := hx.exists_magnitude
  obtain ⟨b, rfl, _, hb⟩ := hy.exists_magnitude
  have hquanta : a.quanta = b.quanta := by omega
  rw [← Magnitude.nearest_one a, hquanta, Magnitude.nearest_one]

theorem add (hx : x.IsQuarters n) (hy : y.IsQuarters k) (h : n + k ≤ 2 ^ (53 : Nat)) : (x + y).IsQuarters (n + k) := by
  obtain ⟨a, rfl, hfa, ha⟩ := hx.exists_magnitude
  obtain ⟨b, rfl, hfb, hb⟩ := hy.exists_magnitude
  obtain ⟨m, hm, hf, hquanta⟩ := (isQuarters_ofRatio h).exists_magnitude
  have hsum : a.quanta + b.quanta = m.quanta := by
    rw [Nat.mul_add] at hquanta
    omega
  have hadd : signed false a + signed false b = signed false m := by
    change Double.add (signed false a) (signed false b) = _
    simp [Double.add, hfa, hfb, hsum, Magnitude.nearest_one]
  rw [hadd]
  exact isQuarters_signed hf hquanta

theorem quarter_mul (h : n ≤ 2 ^ (53 : Nat)) : (ofRatio 1 4 * ofRatio n 1).IsQuarters n := by
  obtain ⟨a, hx, hfa, ha⟩ := (isQuarters_ofRatio (n := 1) (by decide)).exists_magnitude
  obtain ⟨b, hy, hfb, hb⟩ := (isQuarters_ofRatio_one h).exists_magnitude
  obtain ⟨m, _, hf, hquanta⟩ := (isQuarters_ofRatio h).exists_magnitude
  have hproduct : a.quanta * b.quanta = quantaPerOne * m.quanta := by
    rw [Nat.mul_one] at ha
    rw [Nat.mul_left_comm] at hb
    have hb : b.quanta = 4 * m.quanta := by omega
    rw [hb, ← ha, Nat.mul_left_comm, Nat.mul_assoc]
  have hmul : ofRatio 1 4 * ofRatio n 1 = signed false m := by
    rw [hx, hy]
    change Double.mul (signed false a) (signed false b) = _
    simp [Double.mul, hfa, hfb, hproduct, Magnitude.nearest_quanta m quantaPerOne_pos]
  rw [hmul]
  exact isQuarters_signed hf hquanta

theorem isZero_eq (h : x.IsQuarters n) (hn : 0 < n) : x.isZero = false := by
  obtain ⟨m, rfl, _, hm⟩ := h.exists_magnitude
  cases hz : m.isZero with
  | false => exact hz
  | true =>
      rw [Magnitude.eq_zero_of_isZero hz, Magnitude.quanta_zero] at hm
      have hpos := Nat.mul_pos quantaPerOne_pos hn
      omega

theorem reach_le (h : x.IsQuarters n) (hn : n ≤ 399) : x.reach ≤ 7 := by
  obtain ⟨m, rfl, _, hm⟩ := h.exists_magnitude
  have hle : quantaPerOne * n ≤ quantaPerOne * 399 := Nat.mul_le_mul_left _ hn
  refine Magnitude.reach_le (Magnitude.height_le (by decide) (by omega)) fun hz => ?_
  have hquanta := Magnitude.quanta_pos_of_isZero hz
  have hpos : 0 < n := Nat.pos_of_ne_zero (by
    rintro rfl
    omega)
  have hone : quantaPerOne * 1 ≤ quantaPerOne * n := Nat.mul_le_mul_left _ hpos
  omega

end IsQuarters

end Double

/-! ## What is drawn -/

namespace Sample

/-- A chain as it is drawn: numbers of whole quarters below a hundred, none below one behind a division. -/
structure IsDrawn (maxOperators : Nat) (chain : Chain) : Prop where
  length : chain.links.length ≤ maxOperators
  head : ∃ n ≤ 399, chain.head.IsQuarters n
  links : ∀ link ∈ chain.links, ∃ n ≤ 399, link.2.IsQuarters n ∧ (link.1 = .divide → 4 ≤ n)

/-- Doubles give the exact sum of what is drawn. -/
theorem number_eq (nonzero : Bool) :
    number nonzero = do
      let whole ← whole nonzero
      if (← pick 4) = 0 then
        let quarters ← (1 + ·) <$> pick 3
        return Double.ofRatio (4 * whole.toNat + quarters.toNat) 4
      else
        return Double.ofRatio (4 * whole.toNat) 4 := by
  have hbound (k : UInt32) : k.toNat < 2 ^ (32 : Nat) := k.toNat_lt
  unfold number
  refine bind_congr fun whole => bind_congr fun k => ?_
  have hwhole := hbound whole
  have hbase : (Double.ofRatio whole.toNat 1).IsQuarters (4 * whole.toNat) := Double.isQuarters_ofRatio_one (by omega)
  split
  · refine bind_congr fun quarters => congrArg pure ?_
    have hquarters := hbound quarters
    have hsum := hbase.add (Double.IsQuarters.quarter_mul (n := quarters.toNat) (by omega)) (by omega)
    exact hsum.eq (Double.isQuarters_ofRatio (by omega))
  · exact congrArg pure (hbase.eq (Double.isQuarters_ofRatio (by omega)))

theorem always_whole (nonzero : Bool) :
    (whole nonzero).Always fun whole => whole.toNat ≤ 99 ∧ (nonzero → 1 ≤ whole.toNat) := by
  refine always_ite (fun _ => ?_) fun hn => ?_
  · exact (always_pick_from_one (by decide)).mono fun whole hw => ⟨hw.2, fun _ => hw.1⟩
  · exact (always_pick (by decide)).mono fun whole hw => ⟨Nat.le_of_lt_succ hw, fun h => absurd h hn⟩

theorem always_number (nonzero : Bool) :
    (number nonzero).Always fun x => ∃ n ≤ 399, x.IsQuarters n ∧ (nonzero → 4 ≤ n) := by
  rw [number_eq]
  refine always_bind (always_whole nonzero) fun whole ⟨hw, hn⟩ => always_bind (always_pick (by decide)) fun k _ => ?_
  refine always_ite (fun _ => ?_) fun _ => ?_
  · refine always_bind (always_pick_from_one (by decide)) fun quarters hq => always_pure ?_
    have hq : quarters.toNat ≤ 3 := hq.2
    refine ⟨4 * whole.toNat + quarters.toNat, by omega, Double.isQuarters_ofRatio (by omega), fun h => ?_⟩
    have hone := hn h
    omega
  · refine always_pure ⟨4 * whole.toNat, by omega, Double.isQuarters_ofRatio (by omega), fun h => ?_⟩
    have hone := hn h
    omega

theorem always_link :
    link.Always fun tokens => ∃ link : Operator × Double, tokens = Chain.linkTokens link ∧
      ∃ n ≤ 399, link.2.IsQuarters n ∧ (link.1 = .divide → 4 ≤ n) := by
  refine always_bind (p := fun _ => True) (fun _ => trivial) fun op _ => ?_
  refine always_bind (always_number _) fun x ⟨n, hn, hx, hd⟩ => ?_
  exact always_pure ⟨(op, x), rfl, n, hn, hx, fun h => hd (decide_eq_true h)⟩

theorem exists_links {lists : List (List Token)} {p : Operator × Double → Prop}
    (h : ∀ tokens ∈ lists, ∃ link, tokens = Chain.linkTokens link ∧ p link) :
    ∃ links : List (Operator × Double), lists = links.map Chain.linkTokens ∧ ∀ link ∈ links, p link := by
  induction lists with
  | nil => exact ⟨[], rfl, by simp⟩
  | cons tokens rest ih =>
      obtain ⟨⟨link, rfl, hl⟩, hrest⟩ := List.forall_mem_cons.mp h
      obtain ⟨links, rfl, hp⟩ := ih hrest
      exact ⟨link :: links, rfl, List.forall_mem_cons.mpr ⟨hl, hp⟩⟩

theorem always_expression {maxOperators : UInt32} (h : maxOperators.toNat ≤ 2 ^ (32 : Nat) - 2) :
    (expression maxOperators).Always fun tokens =>
      ∃ chain : Chain, tokens = chain.toTokens ∧ IsDrawn maxOperators.toNat chain := by
  have hbound : (maxOperators + 1).toNat = maxOperators.toNat + 1 := by
    rw [UInt32.toNat_add]
    exact Nat.mod_eq_of_lt (by change maxOperators.toNat + 1 < 2 ^ (32 : Nat); omega)
  refine always_bind (always_number false) fun first hfirst => ?_
  refine always_bind (always_pick (by omega)) fun count hcount => ?_
  refine always_bind (always_many always_link count.toNat) fun lists hlists => always_pure ?_
  obtain ⟨links, rfl, hlinks⟩ := exists_links hlists.2
  obtain ⟨n, hn, hq, _⟩ := hfirst
  have hlength : links.length = count.toNat := by simpa using hlists.1
  exact ⟨⟨first, links⟩, by rw [Chain.toTokens, List.flatMap_def], by simp only; omega, ⟨n, hn, hq⟩, hlinks⟩

end Sample

/-! ## Evaluation -/

namespace Chain

/-- Where no number has a sign and nothing is divided by zero, the two evaluations differ in nothing but how they tell an
overflow. -/
theorem reduce_eq_singlePass (hn : ∀ x, .number x ∈ chain.toTokens → x.isFinite ∧ x.isNegative = false)
    (hz : ∀ link ∈ chain.links, ¬IsZeroDivision link) :
    reduce chain.toTokens =
      if (SinglePass.value chain.toTokens).isFinite then .ok (SinglePass.value chain.toTokens) else .error .outOfRange := by
  have hvalue := SinglePass.compute_terms_eq_value fun x hx => (hn x hx).2
  split
  · rename_i hf
    rw [← hvalue] at hf
    rw [reduce_toTokens, SumOfTerms.value_of_isFinite chain.terms_isCutOf.additive hf, hvalue]
  · rename_i hf
    cases hr : reduce chain.toTokens with
    | ok v =>
        rw [reduce_toTokens] at hr
        rw [← hvalue, ← SumOfTerms.eq_compute_of_value hr] at hf
        exact absurd (SumOfTerms.isFinite_of_value (hn _ List.mem_cons_self).1 hr) hf
    | error e =>
        rcases reduce_eq_error hr with ⟨_, hm, _⟩ | ⟨_, rfl | rfl⟩
        · rw [Chain.ofTokens_eq_ok.mpr rfl] at hm
          cases hm
        · obtain ⟨link, hl, hd⟩ := exists_zeroDivision_of_reduce hr
          exact absurd hd (hz link hl)
        · rfl

end Chain

namespace Sample.IsDrawn

variable {maxOperators : Nat}

theorem number (h : IsDrawn maxOperators chain) : ∀ x, .number x ∈ chain.toTokens → ∃ n ≤ 399, x.IsQuarters n := by
  intro x hx
  rcases List.mem_cons.mp hx with hx | hx
  · cases hx
    exact h.head
  · obtain ⟨link, hl, hx⟩ := List.mem_flatMap.mp hx
    obtain ⟨n, hn, hq, _⟩ := h.links link hl
    obtain rfl : x = link.2 := by simpa [Chain.linkTokens] using hx
    exact ⟨n, hn, hq⟩

theorem isScannable (h : IsDrawn maxOperators chain) : Token.IsScannable chain.toTokens := by
  refine ⟨chain.noAdjacentNumbers_toTokens, fun x hx => ?_⟩
  obtain ⟨n, _, hq⟩ := h.number x hx
  exact ⟨hq.isFinite, hq.isNegative⟩

theorem not_isZeroDivision (h : IsDrawn maxOperators chain) : ∀ link ∈ chain.links, ¬Chain.IsZeroDivision link := by
  rintro link hl ⟨hop, hz⟩
  obtain ⟨n, _, hq, hd⟩ := h.links link hl
  rw [hq.isZero_eq (Nat.lt_of_lt_of_le (by decide) (hd hop))] at hz
  cases hz

theorem calculate_eq (h : IsDrawn maxOperators chain) :
    calculate (Token.join "" chain.toTokens) =
      if (SinglePass.value chain.toTokens).isFinite then .ok (SinglePass.value chain.toTokens) else .error .outOfRange := by
  rw [calculate_of_tokenize (Token.tokenize_join h.isScannable)]
  exact Chain.reduce_eq_singlePass h.isScannable.2 h.not_isZeroDivision

/-- A number below `2 ^ 7`, and its reciprocal, which is at most four, reach no further than `7`. -/
theorem reach_le (h : IsDrawn maxOperators chain) : chain.reach ≤ 7 * (maxOperators + 1) := by
  obtain ⟨n, hn, hq⟩ := h.head
  have hhead := hq.reach_le hn
  have hlinks : Chain.sumOver Double.reach chain.links ≤ 7 * chain.links.length := by
    refine Chain.sumOver_le fun link hl => ?_
    obtain ⟨n, hn, hq, _⟩ := h.links link hl
    exact hq.reach_le hn
  have hlength := h.length
  rw [Chain.reach]
  omega

theorem isFinite_value (h : IsDrawn maxOperators chain) (hmax : maxOperators ≤ 100) :
    (SinglePass.value chain.toTokens).isFinite := by
  by_contra hf
  have hr := Chain.reduce_eq_singlePass h.isScannable.2 h.not_isZeroDivision
  rw [if_neg hf] at hr
  have hlimit : 1024 ≤ chain.reach := Chain.limit_le_reach hr
  have hreach := h.reach_le
  omega

end Sample.IsDrawn

/-- The generator gives the campaign nothing but chains as it needs them, from every state. Each is scanned as it was
drawn, and both evaluations agree on it, where an infinity of the single pass is an overflow of the other. A hundred
operators are too few for one, so the campaign holds of every seed. -/
theorem expression_sound (maxOperators : UInt32) (h : maxOperators.toNat ≤ 2 ^ (32 : Nat) - 2) :
    (∀ g : Generator, ∃ chain : Chain,
      (Sample.expression maxOperators g).1 = chain.toTokens ∧ Sample.IsDrawn maxOperators.toNat chain ∧
      tokenize (Token.join "" chain.toTokens) = .ok chain.toTokens ∧
      calculate (Token.join "" chain.toTokens) =
        (if (SinglePass.value chain.toTokens).isFinite then .ok (SinglePass.value chain.toTokens)
          else .error .outOfRange) ∧
      (maxOperators.toNat ≤ 100 → (SinglePass.value chain.toTokens).isFinite)) ∧
    (maxOperators.toNat ≤ 100 → ∀ seed count,
      (Logged.all Campaign.agrees
        (Sample.fromSeed seed (Sample.many (Sample.expression maxOperators) count))).value = true) := by
  have hdrawn := Sample.always_expression h
  constructor
  · intro g
    obtain ⟨chain, ht, hc⟩ := hdrawn g
    exact ⟨chain, ht, hc, Token.tokenize_join hc.isScannable, hc.calculate_eq, hc.isFinite_value⟩
  · intro hmax seed count
    refine Logged.value_all.mpr fun tokens hm => Campaign.value_agrees.mpr ?_
    obtain ⟨chain, rfl, hc⟩ := ((Sample.always_many hdrawn count).fromSeed seed).2 tokens hm
    have hf := hc.isFinite_value hmax
    exact ⟨_, by rw [hc.calculate_eq, if_pos hf], Double.EqUpToZero.sameNumber (.inl rfl) hf⟩

theorem expression_sound_in_campaign :
    (8 : UInt32).toNat ≤ 2 ^ (32 : Nat) - 2 ∧ (8 : UInt32).toNat ≤ 100 ∧ Campaign.precedence.run.value = true := by
  have hlimit : (8 : UInt32).toNat ≤ 2 ^ (32 : Nat) - 2 := by decide
  have hmax : (8 : UInt32).toNat ≤ 100 := by decide
  obtain ⟨_, hcampaign⟩ := expression_sound 8 hlimit
  exact ⟨hlimit, hmax, hcampaign hmax 0xC0FFEE 400⟩

/-- The campaign that scans what it has written holds of every seed, and of as many operators as can be asked for. -/
theorem all_rereads {maxOperators : UInt32} (h : maxOperators.toNat ≤ 2 ^ (32 : Nat) - 2) (seed : UInt64) (count : Nat) :
    (Sample.fromSeed seed (Sample.many (Sample.expression maxOperators) count)).all Campaign.rereads := by
  refine List.all_eq_true.mpr fun tokens hm => Campaign.rereads_iff.mpr ?_
  obtain ⟨chain, rfl, hc⟩ := ((Sample.always_many (Sample.always_expression h) count).fromSeed seed).2 tokens hm
  exact Token.tokenize_join hc.isScannable

end Calculator
