import Calculator.Proofs.Chain.Height
import Calculator.Proofs.Language
import Calculator.Proofs.Sample.Always
import Calculator.Proofs.Sample.Campaign

/-!
# Short texts

Three digits more multiply a literal, or its reciprocal, by less than `2 ^ 10`, and a chain reaches no further than its
numbers do together. So it takes more than three hundred characters to overflow, be it in a literal or on the way through
the passes.
-/

namespace Calculator

open Magnitude (heightLimit)

variable {s : String} {text run : List Char} {ls : List Lexeme} {chain : Chain}

/-! ## Literals -/

theorem Decimal.ofDigitChars_lt {digits : List Char} (h : ∀ c ∈ digits, c.isDigit) :
    Nat.ofDigitChars 10 digits 0 < 10 ^ digits.length := by
  induction digits with
  | nil => exact Nat.one_pos
  | cons c rest ih =>
      obtain ⟨hc, hrest⟩ := List.forall_mem_cons.mp h
      obtain ⟨d, rfl⟩ := exists_digitChar hc
      have hd : 10 ^ rest.length * (d.val + 1) ≤ 10 ^ rest.length * 10 := Nat.mul_le_mul_left _ d.isLt
      have hlt := ih hrest
      rw [Nat.mul_succ] at hd
      rw [Nat.ofDigitChars_cons_digitChar_of_lt_ten d.isLt, Nat.ofDigitChars_eq_ofDigitChars_zero, Nat.mul_zero,
        Nat.zero_add, List.length_cons, Nat.pow_succ]
      omega

theorem tenPow_le (n : Nat) : 10 ^ n ≤ 2 ^ ((10 * n + 2) / 3) := by
  -- Three digits more are ten bits more.
  induction n using Nat.strongRecOn with
  | ind n ih =>
      by_cases hn : n < 3
      · have hsmall : ∀ k < 3, 10 ^ k ≤ 2 ^ ((10 * k + 2) / 3) := by decide
        exact hsmall n hn
      · obtain ⟨k, rfl⟩ : ∃ k, n = k + 3 := ⟨n - 3, by omega⟩
        have hexp : (10 * (k + 3) + 2) / 3 = (10 * k + 2) / 3 + 10 := by omega
        rw [hexp, Nat.pow_add, Nat.pow_add]
        exact Nat.mul_le_mul (ih k (by omega)) (by decide)

namespace Literal

theorem places_decimal_le (text : List Char) : (decimal text).places ≤ text.length := by
  change ((text.dropWhile (· ≠ '.')).drop 1).length ≤ text.length
  exact ((List.drop_sublist 1 _).trans (List.dropWhile_sublist _)).length_le

theorem coefficient_decimal_lt (h : isNumber text) : (decimal text).coefficient < 10 ^ text.length := by
  have hdigit : ∀ c ∈ text.filter (· ≠ '.'), c.isDigit := by
    intro c hc
    obtain ⟨hm, hp⟩ := List.mem_filter.mp hc
    exact isDigit_of_ne_point (isLiteralChar_of_isNumber h c hm) (of_decide_eq_true hp)
  exact Nat.lt_of_lt_of_le (Decimal.ofDigitChars_lt hdigit)
    (Nat.pow_le_pow_right (by decide) (List.length_filter_le _ _))

theorem reach_value (h : isNumber text) : 3 * (value text).reach ≤ 10 * text.length + 2 := by
  have hpos : 0 < text.length := List.length_pos_of_ne_nil (ne_nil_of_isNumber h)
  have hpower := tenPow_le text.length
  have hreach : (value text).reach ≤ (10 * text.length + 2) / 3 := by
    refine Magnitude.reach_ofDecimal (by omega) ?_ ?_
    · exact Nat.le_trans (Nat.le_of_lt (coefficient_decimal_lt h)) hpower
    · exact Nat.le_trans (Nat.pow_le_pow_right (by decide) (places_decimal_le text)) hpower
  omega

theorem fault?_eq_outOfRange : fault? text = some .outOfRange ↔ isNumber text ∧ ¬(value text).isFinite := by
  unfold fault?
  split
  · split <;> simp_all
  · simp_all

theorem limit_le_length (h : isNumber text) (hv : ¬(value text).isFinite) : 3 * heightLimit ≤ 10 * text.length + 2 := by
  have hlimit := Double.height_of_not_isFinite hv
  have hheight := (value text).height_le_reach
  have hreach := reach_value h
  omega

example : ¬(value (List.replicate 309 '9')).isFinite := by decide +kernel

end Literal

/-! ## Chains -/

/-- Each number is counted by the length of its literal, and the operator behind it pays for rounding up. -/
theorem reach_le_length (h : ls.mapM Lexeme.read = .ok chain.toTokens) :
    3 * chain.reach ≤ 10 * (ls.flatMap Lexeme.text).length + 2 := by
  obtain ⟨head, links⟩ := chain
  induction links generalizing head ls with
  | nil =>
      obtain ⟨run, rest, rfl, hf, rfl, hm⟩ := eq_run_cons_of_mapM_read h
      cases eq_nil_of_mapM_read hm
      have hreach := Literal.reach_value (Literal.fault?_eq_none.mp hf).1
      simpa [Chain.reach, Chain.sumOver, Lexeme.text] using hreach
  | cons link links ih =>
      obtain ⟨op, value⟩ := link
      obtain ⟨run, more, rfl, hf, rfl, hm⟩ := eq_run_cons_of_mapM_read h
      obtain ⟨rest, rfl, hr⟩ := eq_operator_cons_of_mapM_read hm
      have hreach := Literal.reach_value (Literal.fault?_eq_none.mp hf).1
      have hrest := ih value hr
      simp only [Chain.reach, Chain.sumOver, List.flatMap_cons, Lexeme.text, List.length_append,
        List.length_singleton] at hrest ⊢
      omega

/-! ## Texts -/

theorem length_le_of_mem_runs (h : run ∈ runs text) : run.length ≤ text.length := by
  obtain ⟨lexeme, hl, hr⟩ := List.mem_filterMap.mp h
  cases lexeme with
  | operator op => cases hr
  | run text' =>
      cases hr
      have hsub : run.Sublist ((lexemes text).flatMap Lexeme.text) :=
        List.sublist_flatten_of_mem (List.mem_map_of_mem (f := Lexeme.text) hl)
      rw [flatMap_lexemes] at hsub
      exact hsub.length_le

theorem limit_le_length_of_calculate (h : calculate s = .error .outOfRange) : 3 * heightLimit ≤ 10 * s.length + 2 := by
  rw [calculate_eq] at h
  rcases Outcome.bind_eq_error.mp h with ht | ⟨tokens, ht, hr⟩
  · rcases tokenize_eq_error ht with ⟨_, _, he⟩ | ⟨run, hm, hf⟩
    · cases he
    · obtain ⟨hn, hv⟩ := Literal.fault?_eq_outOfRange.mp hf
      have hlimit := Literal.limit_le_length hn hv
      have hle : run.length ≤ s.length := length_le_of_mem_runs hm
      omega
  · rcases reduce_eq_error hr with ⟨_, _, he⟩ | ⟨⟨chain, hc⟩, _⟩
    · cases he
    · rw [Chain.ofTokens_eq_ok.mp hc] at ht hr
      have hlimit := Chain.limit_le_reach hr
      rw [tokenize_of_legal (legal_of_tokenize ht)] at ht
      have hreach := reach_le_length ht
      rw [flatMap_lexemes] at hreach
      have hlength : s.toList.length = s.length := rfl
      omega

theorem calculate_ne_outOfRange (h : s.length ≤ 300) : calculate s ≠ .error .outOfRange := by
  intro he
  have hlimit : 3 * 1024 ≤ 10 * s.length + 2 := limit_le_length_of_calculate he
  omega

/-- No text of at most three hundred characters overflows. None of its literals is too large for a double, and neither is
what any operator makes of them, whatever it divides by. -/
theorem calculate_in_range (s : String) (h : s.length ≤ 300) :
    calculate s ≠ .error .outOfRange ∧
      (∀ run ∈ runs s.toList, Literal.isNumber run → (Literal.value run).isFinite) ∧
      (Campaign.staysInRange s).value = true := by
  have hrange := calculate_ne_outOfRange h
  refine ⟨hrange, fun run hm hn => ?_, Campaign.value_staysInRange.mpr hrange⟩
  by_contra hv
  have hlimit : 3 * 1024 ≤ 10 * run.length + 2 := Literal.limit_le_length hn hv
  have hle : run.length ≤ s.length := length_le_of_mem_runs hm
  omega

theorem calculate_in_range_over_tiny_divisor :
    let s := String.ofList (['9', '9', '/', '.'] ++ List.replicate 295 '0' ++ ['1'])
    s.length = 300 ∧ calculate s ≠ .error .outOfRange ∧ (Campaign.staysInRange s).value = true := by
  intro s
  have hlength : s.length = 300 := by
    rw [String.length_ofList, List.length_append, List.length_append, List.length_replicate]
    rfl
  obtain ⟨hrange, _, hsample⟩ := calculate_in_range s (Nat.le_of_eq hlength)
  exact ⟨hlength, hrange, hsample⟩

/-! ## Samples -/

theorem Sample.always_soup : soup.Always fun text => text.length ≤ 11 := by
  refine always_bind (always_pick (by decide)) fun length hl => ?_
  refine always_bind (always_many (p := fun _ => True) (fun _ => trivial) length.toNat) fun characters hc => ?_
  refine always_pure ?_
  rw [String.length_ofList, hc.1]
  exact Nat.le_of_lt_succ hl

/-- The campaign finds no overflow, whatever its seed. -/
theorem all_staysInRange (seed : UInt64) (count : Nat) :
    (Logged.all Campaign.staysInRange (Sample.fromSeed seed (Sample.many Sample.soup count))).value = true := by
  refine Logged.value_all.mpr fun text hm => Campaign.value_staysInRange.mpr (calculate_ne_outOfRange ?_)
  have hlength := ((Sample.always_many Sample.always_soup count).fromSeed seed).2 text hm
  omega

end Calculator
