import Calculator.Token

/-!
# Literals

Which texts of digits and points are numbers, and of what value. The rest have a fault, and so has a number that
is too large for a double.
-/

namespace Calculator

namespace Literal

/-- Digits with at most one point, and at least one digit. -/
def isNumber (text : List Char) : Bool :=
  text.all Token.isLiteralChar && text.count '.' ≤ 1 && text.any Char.isDigit

/-- The digits as one numeral, and how many of them stand behind the point. -/
def decimal (text : List Char) : Decimal :=
  ⟨Nat.ofDigitChars 10 (text.filter (· ≠ '.')) 0, ((text.dropWhile (· ≠ '.')).drop 1).length⟩

def value (text : List Char) : Double := Double.ofDecimal (decimal text)

def fault? (text : List Char) : Option EvalError :=
  if isNumber text then
    if (value text).isFinite then none else some .outOfRange
  else
    some (Malformation.badLiteral (String.ofList text))

/-- A number that a double can hold. -/
def IsReadable (text : List Char) : Prop := isNumber text ∧ (value text).isFinite

variable {text : List Char}

theorem isLiteralChar_of_isNumber (h : isNumber text) :
    ∀ c ∈ text, Token.isLiteralChar c := by
  simp only [isNumber, Bool.and_eq_true, List.all_eq_true] at h
  exact h.1.1

theorem ne_nil_of_isNumber (h : isNumber text) : text ≠ [] := by
  rintro rfl
  cases h

theorem fault?_eq_none : fault? text = none ↔ IsReadable text := by
  rw [fault?, IsReadable]
  split <;> simp_all

theorem eq_of_fault? {e : EvalError} (h : fault? text = some e) :
    e = .outOfRange ∨ e = .malformed (.badLiteral (String.ofList text)) := by
  unfold fault? at h
  split at h
  · split at h
    · cases h
    · cases h; exact .inl rfl
  · cases h; exact .inr rfl

/-! ## Reading -/

theorem isDigit_of_ne_point {c : Char} (h : Token.isLiteralChar c) (hc : c ≠ '.') : c.isDigit := by
  simpa [Token.isLiteralChar, hc] using h

theorem read?_of_no_point (h : ∀ c ∈ text, Token.isLiteralChar c) (hp : '.' ∉ text) :
    Decimal.read? text = if isNumber text then some (decimal text) else none := by
  have hne : ∀ c ∈ text, decide (c ≠ '.') = true := by
    intro c hc
    exact decide_eq_true fun he => hp (he ▸ hc)
  have hd : ∀ c ∈ text, c.isDigit := fun c hc => isDigit_of_ne_point (h c hc) (by simpa using hne c hc)
  have hf : text.filter (fun c => decide (c ≠ '.')) = text := List.filter_eq_self.mpr hne
  have hw : text.dropWhile (fun c => decide (c ≠ '.')) = [] := by
    simpa using @List.dropWhile_append_of_pos _ _ text [] hne
  have hnum : isNumber text = true ↔ text ≠ [] := by
    cases text with
    | nil => simp [isNumber]
    | cons c cs =>
        have hall : (c :: cs).all Token.isLiteralChar = true := List.all_eq_true.mpr h
        have hany : (c :: cs).any Char.isDigit = true := List.any_eq_true.mpr ⟨c, by simp, hd c (by simp)⟩
        simp only [isNumber, hall, hany, List.count_eq_zero_of_not_mem hp]
        simp
  by_cases he : text = []
  · subst he
    rfl
  · rw [if_pos (hnum.mpr he), Decimal.read?_of_digits he hd, decimal, hf, hw]
    rfl

theorem isNumber_of_point {whole fraction : List Char} (hp : '.' ∉ whole)
    (h : ∀ c ∈ whole ++ '.' :: fraction, Token.isLiteralChar c) :
    isNumber (whole ++ '.' :: fraction) = true ↔
      whole ++ fraction ≠ [] ∧ ∀ c ∈ whole ++ fraction, c.isDigit := by
  have hall : (whole ++ '.' :: fraction).all Token.isLiteralChar = true := List.all_eq_true.mpr h
  have hcount : (whole ++ '.' :: fraction).count '.' = fraction.count '.' + 1 := by
    rw [List.count_append, List.count_eq_zero_of_not_mem hp, List.count_cons_self, Nat.zero_add]
  have hany : (whole ++ '.' :: fraction).any Char.isDigit = (whole ++ fraction).any Char.isDigit := by
    simp only [List.any_append, List.any_cons]
    rfl
  simp only [isNumber, hall, hcount, hany, Bool.true_and, Bool.and_eq_true, decide_eq_true_eq]
  constructor
  · rintro ⟨hc, ha⟩
    have hf : '.' ∉ fraction := List.count_eq_zero.mp (by omega)
    obtain ⟨c, hc, _⟩ := List.any_eq_true.mp ha
    refine ⟨List.ne_nil_of_mem hc, ?_⟩
    intro c hc
    rcases List.mem_append.mp hc with hm | hm
    · exact isDigit_of_ne_point (h c (by simp [hm])) fun he => hp (he ▸ hm)
    · exact isDigit_of_ne_point (h c (by simp [hm])) fun he => hf (he ▸ hm)
  · rintro ⟨hne, hd⟩
    have hf : '.' ∉ fraction := fun hm => Decimal.ne_point_of_isDigit (hd '.' (by simp [hm])) rfl
    have hz := List.count_eq_zero_of_not_mem hf
    obtain ⟨c, hc⟩ := List.exists_mem_of_ne_nil _ hne
    exact ⟨by omega, List.any_eq_true.mpr ⟨c, hc, hd c hc⟩⟩

theorem read?_of_point {whole fraction : List Char} (hp : '.' ∉ whole)
    (h : ∀ c ∈ whole ++ '.' :: fraction, Token.isLiteralChar c) :
    Decimal.read? (whole ++ '.' :: fraction) =
      if isNumber (whole ++ '.' :: fraction) then some (decimal (whole ++ '.' :: fraction)) else none := by
  have hne : ∀ c ∈ whole, decide (c ≠ '.') = true := fun c hc => decide_eq_true fun he => hp (he ▸ hc)
  have ht : (whole ++ '.' :: fraction).takeWhile (fun c => decide (c ≠ '.')) = whole := by
    rw [List.takeWhile_append_of_pos hne, List.takeWhile_cons_of_neg (by decide), List.append_nil]
  have hw : (whole ++ '.' :: fraction).dropWhile (fun c => decide (c ≠ '.')) = '.' :: fraction := by
    rw [List.dropWhile_append_of_pos hne, List.dropWhile_cons_of_neg (by decide)]
  have hnum := isNumber_of_point hp h
  by_cases hd : whole ++ fraction ≠ [] ∧ ∀ c ∈ whole ++ fraction, c.isDigit
  · have hdigit : ∀ c ∈ whole ++ fraction, decide (c ≠ '.') = true := fun c hc =>
      decide_eq_true (Decimal.ne_point_of_isDigit (hd.2 c hc))
    have hf : (whole ++ '.' :: fraction).filter (fun c => decide (c ≠ '.')) = whole ++ fraction := by
      rw [List.filter_append, List.filter_cons_of_neg (by decide), ← List.filter_append]
      exact List.filter_eq_self.mpr hdigit
    rw [if_pos (hnum.mpr hd), Decimal.read?_of_digits_point hd.1 hd.2, decimal, hf, hw]
    rfl
  · rw [if_neg (fun hn => hd (hnum.mp hn))]
    simp only [Decimal.read?, ht, hw, List.drop_succ_cons, List.drop_zero, List.all_eq_true]
    exact if_neg hd

theorem read?_eq (h : ∀ c ∈ text, Token.isLiteralChar c) :
    Decimal.read? text = if isNumber text then some (decimal text) else none := by
  by_cases hp : '.' ∈ text
  · obtain ⟨whole, fraction, rfl, hw⟩ := List.eq_append_cons_of_mem hp
    exact read?_of_point hw h
  · exact read?_of_no_point h hp

theorem readLiteral_eq (h : ∀ c ∈ text, Token.isLiteralChar c) :
    Token.readLiteral (String.ofList text) =
      match fault? text with
      | some e => .error e
      | none => .ok (value text) := by
  rw [Token.readLiteral, String.toList_ofList, read?_eq h, fault?]
  by_cases hn : isNumber text
  · cases hv : (Double.ofDecimal (decimal text)).isFinite with
    | true => simp [hn, hv, value]
    | false => simp [hn, hv, value]
  · simp [hn]

end Literal

end Calculator
