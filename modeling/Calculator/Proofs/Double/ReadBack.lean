import Calculator.Proofs.Double.Exact

/-!
# Results as plain text

An integral result below the limit has a numeral of its own, and without it would be written as just that numeral. So a
result is the plain text of its double, but for the sign of a zero. It reads back as what it shows, and two results are
the same text when they are the same number.
-/

namespace Calculator.Double

open Magnitude (nearest nearest_one quantaPerOne)

variable {x y : Double} {s : Bool} {m : Magnitude} {z : Int} {n : Nat}

/-- The one zero that is shown. -/
def unsignedZero (x : Double) : Double := if x.isZero then 0 else x

/-- Reads a decimal with or without a minus sign. -/
def ofText? : List Char → Option Double
  | '-' :: digits => (Decimal.read? digits).map fun d => -ofDecimal d
  | digits => (Decimal.read? digits).map ofDecimal

/-! ## Integers -/

theorem text_of_integer (s : Bool) (h : n ≤ 2 ^ (53 : Nat)) :
    (signed s (nearest (quantaPerOne * n) 1)).text = (if s then "-" else "") ++ toString (n : Int) := by
  obtain ⟨m, hm, hf⟩ := Magnitude.exists_quanta h
  rw [← hm, nearest_one, text, hf, Decimal.shortest_of_integer hm h, toString_natCast]
  rfl

theorem text_ofInt (h : z.natAbs ≤ 2 ^ (53 : Nat)) : (ofInt z).text = toString z := by
  cases z with
  | ofNat n =>
      change (ofInt (n : Int)).text = toString (n : Int)
      rw [ofInt_natCast, text_of_integer false (n := n) h]
      exact String.empty_append
  | negSucc n =>
      change (ofInt (-((n + 1 : Nat) : Int))).text = toString (-((n + 1 : Nat) : Int))
      rw [ofInt_neg_natCast n.succ_pos, text_of_integer true (n := n + 1) h, toString_neg_natCast n.succ_pos]
      rfl

theorem eq_ofInt_of_smallInteger? (hne : x ≠ -0) (h : x.smallInteger? = some z) :
    x = ofInt z ∧ z.natAbs < numeralLimit := by
  cases x with
  | nan => cases h
  | signed s m =>
      simp only [smallInteger?] at h
      split at h
      · rename_i hw
        obtain ⟨hmod, hlt⟩ := hw
        have hm : m.quanta = quantaPerOne * (m.quanta / quantaPerOne) :=
          (Nat.mul_div_cancel' (Nat.dvd_of_mod_eq_zero hmod)).symm
        generalize m.quanta / quantaPerOne = n at h hlt hm
        cases h
        have hcast : (m.quanta : Int) = quantaPerOne * n := by rw [hm, Int.natCast_mul]
        cases s with
        | false =>
            refine ⟨?_, hlt⟩
            rw [← ofQuanta_quanta hne, ofInt]
            exact congrArg ofQuanta hcast
        | true =>
            rw [if_pos rfl, Int.natAbs_neg]
            refine ⟨?_, hlt⟩
            rw [← ofQuanta_quanta hne, ofInt, Int.mul_neg, ← hcast]
            rfl
      · cases h

theorem le_of_lt_numeralLimit (h : n < numeralLimit) : n ≤ 2 ^ (53 : Nat) :=
  Nat.le_of_lt (Nat.lt_trans h (by decide))

/-! ## Zeros -/

theorem unsignedZero_ne_negZero (x : Double) : x.unsignedZero ≠ -0 := by
  unfold unsignedZero
  split
  · rintro ⟨⟩
  · rename_i hz
    rintro rfl
    exact hz rfl

theorem unsignedZero_of_ne (h : x ≠ -0) : x.unsignedZero = x := by
  unfold unsignedZero
  split
  · rename_i hz
    exact (eq_zero_of_isZero h hz).symm
  · rfl

theorem isFinite_unsignedZero (h : x.isFinite) : x.unsignedZero.isFinite := by
  unfold unsignedZero
  split
  · rfl
  · exact h

theorem resultText_unsignedZero (x : Double) : x.unsignedZero.resultText = x.resultText := by
  unfold unsignedZero
  split
  · rename_i hz
    simp only [resultText, hz, ↓reduceIte, ite_self]
  · rfl

theorem sameNumber_iff (hx : x.isFinite) (hy : y.isFinite) :
    x.sameNumber y ↔ x.unsignedZero = y.unsignedZero := by
  obtain ⟨s, a, rfl, _⟩ := eq_signed hx
  obtain ⟨t, b, rfl, _⟩ := eq_signed hy
  have hsame : (signed s a).sameNumber (signed t b) ↔ a = b ∧ (s = t ∨ a.isZero) := by simp [sameNumber]
  rw [hsame]
  change _ ↔ (if a.isZero then 0 else signed s a) = if b.isZero then 0 else signed t b
  constructor
  · rintro ⟨rfl, rfl | hz⟩
    · rfl
    · rw [if_pos hz, if_pos hz]
  · intro h
    by_cases ha : a.isZero
    · by_cases hb : b.isZero
      · exact ⟨(Magnitude.eq_zero_of_isZero ha).trans (Magnitude.eq_zero_of_isZero hb).symm, .inr ha⟩
      · rw [if_pos ha, if_neg hb] at h
        injection h with _ hm
        exact absurd (hm ▸ rfl) hb
    · by_cases hb : b.isZero
      · rw [if_neg ha, if_pos hb] at h
        injection h with _ hm
        exact absurd (hm ▸ rfl) ha
      · rw [if_neg ha, if_neg hb] at h
        injection h with hs hm
        exact ⟨hm, .inl hs⟩

/-! ## Plain text -/

theorem resultText_eq_text (x : Double) : x.resultText = x.unsignedZero.text := by
  have hne := unsignedZero_ne_negZero x
  rw [← resultText_unsignedZero, resultText_eq hne]
  cases h : x.unsignedZero.smallInteger? with
  | none => rfl
  | some z =>
      obtain ⟨he, hz⟩ := eq_ofInt_of_smallInteger? hne h
      rw [he, text_ofInt (le_of_lt_numeralLimit hz)]
      rfl

theorem ofText?_of_unsigned {text : List Char} (h : ∀ c ∈ text, Token.isLiteralChar c) :
    ofText? text = (Decimal.read? text).map ofDecimal := by
  unfold ofText?
  split
  · cases h '-' List.mem_cons_self
  · rfl

theorem ofText?_text (hf : x.isFinite) : ofText? x.text.toList = some x := by
  obtain ⟨s, m, rfl, hm⟩ := eq_signed hf
  have hread : Decimal.read? (Decimal.shortest m).write = some (Decimal.shortest m) := Decimal.read?_write _
  have hvalue : ofDecimal (Decimal.shortest m) = signed false m := by rw [ofDecimal, Decimal.ofDecimal_shortest]
  cases s with
  | false =>
      have hliteral := Decimal.isLiteralChar_of_mem_write (Decimal.shortest m)
      rw [text_of_isFinite hm, ofText?_of_unsigned hliteral, hread, Option.map_some, hvalue]
  | true =>
      have htext : (signed true m).text.toList = '-' :: (Decimal.shortest m).write := by
        rw [text_negative, String.toList_append, text_of_isFinite hm]
        rfl
      rw [htext, ofText?, hread, Option.map_some, hvalue]
      rfl

/-- The text of a result is the plain text of the double, with one zero, though integral ones below the limit are
written as integers. Those are exact and fit into `64` bits. A finite result reads back as what it shows, and no other
number has its text. -/
theorem resultText_as_plain_text (x : Double) :
    x.resultText = x.unsignedZero.text ∧
    (∀ z, x.unsignedZero.smallInteger? = some z →
      x.unsignedZero.quanta = quantaPerOne * z ∧ z.natAbs < numeralLimit ∧ (Int64.ofInt z).toInt = z) ∧
    (x.isFinite → ofText? x.resultText.toList = some x.unsignedZero) ∧
    ∀ y : Double, x.isFinite → y.isFinite → (x.resultText = y.resultText ↔ x.sameNumber y) := by
  refine ⟨resultText_eq_text x, ?_, ?_, ?_⟩
  · intro z h
    obtain ⟨he, hz⟩ := eq_ofInt_of_smallInteger? (unsignedZero_ne_negZero x) h
    refine ⟨?_, hz, ?_⟩
    · rw [he, (quanta_ofInt (le_of_lt_numeralLimit hz)).1]
    · have hlimit : numeralLimit < 2 ^ 63 := by decide
      exact Int64.toInt_ofInt_of_le (by omega) (by omega)
  · intro hf
    rw [resultText_eq_text]
    exact ofText?_text (isFinite_unsignedZero hf)
  · intro y hx hy
    rw [sameNumber_iff hx hy, resultText_eq_text, resultText_eq_text]
    constructor
    · intro h
      have hread := ofText?_text (isFinite_unsignedZero hx)
      rw [h, ofText?_text (isFinite_unsignedZero hy)] at hread
      exact (Option.some.inj hread).symm
    · intro h
      rw [h]

theorem resultText_as_plain_text_below_limit :
    let x := -ofInt 999999999999999
    let y : Double := signed false ⟨1, by decide⟩
    x.unsignedZero.smallInteger? = some (-999999999999999) ∧ x.unsignedZero.quanta = quantaPerOne * -999999999999999 ∧
      ofText? (-0 : Double).resultText.toList = some 0 ∧ ofText? y.resultText.toList = some y ∧
      (x.resultText = y.resultText ↔ x.sameNumber y) := by
  intro x y
  have hsmall : x.unsignedZero.smallInteger? = some (-999999999999999) := by decide +kernel
  obtain ⟨_, hinteger, _, hiff⟩ := resultText_as_plain_text x
  refine ⟨hsmall, (hinteger _ hsmall).1, ?_, ?_, hiff y ?_ ?_⟩
  · exact (resultText_as_plain_text (-0)).2.2.1 rfl
  · exact (resultText_as_plain_text y).2.2.1 (by decide)
  · decide +kernel
  · decide

end Calculator.Double
