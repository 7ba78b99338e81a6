/-!
# Decimals

Finite decimals without sign, and how they are written: digits with at most one point between or beside
them, never an exponent.
-/

namespace Calculator

/-- One reading of powers of natural numbers, whatever else is in sight, so that what is proved is proved of the terms
that run. -/
scoped instance (priority := high) powNat : Pow Nat Nat := instPowNat

/-- The number `coefficient / 10 ^ places`. -/
structure Decimal where
  coefficient : Nat
  places : Nat
  deriving DecidableEq

namespace Decimal

/-- Reads digits with at most one point. One digit is enough, on either side of the point. -/
def read? (text : List Char) : Option Decimal :=
  let whole := text.takeWhile (· ≠ '.')
  let fraction := (text.dropWhile (· ≠ '.')).drop 1
  let digits := whole ++ fraction
  if digits ≠ [] ∧ digits.all Char.isDigit then
    some ⟨Nat.ofDigitChars 10 digits 0, fraction.length⟩
  else
    none

/-- Writes all the places, and the point only where there are any. -/
def write (d : Decimal) : List Char :=
  let whole := Nat.toDigits 10 (d.coefficient / 10 ^ d.places)
  let fraction := Nat.toDigits 10 (d.coefficient % 10 ^ d.places)
  if d.places = 0 then whole else whole ++ '.' :: fraction.leftpad d.places '0'

/-! ## Reading back -/

theorem ne_point_of_isDigit {c : Char} (h : c.isDigit) : c ≠ '.' := by
  rintro rfl
  exact absurd h (by decide)

theorem exists_digitChar {c : Char} (h : c.isDigit) : ∃ d : Fin 10, Nat.digitChar d = c := by
  obtain ⟨hlow, hhigh⟩ : 48 ≤ c.toNat ∧ c.toNat ≤ 57 := by
    simpa [Char.isDigit, UInt32.le_iff_toNat_le] using h
  have hchar : ∀ d : Fin 10, Nat.digitChar d = Char.ofNat (48 + d) := by decide
  refine ⟨⟨c.toNat - 48, by omega⟩, ?_⟩
  rw [hchar, Nat.add_sub_cancel' hlow, Char.ofNat_toNat]

theorem read?_of_digits {cs : List Char} (hne : cs ≠ []) (h : ∀ c ∈ cs, c.isDigit) :
    read? cs = some ⟨Nat.ofDigitChars 10 cs 0, 0⟩ := by
  have hp : ∀ c ∈ cs, decide (c ≠ '.') = true := fun c hc => decide_eq_true (ne_point_of_isDigit (h c hc))
  have ht : cs.takeWhile (fun c => decide (c ≠ '.')) = cs := by
    simpa using @List.takeWhile_append_of_pos _ _ cs [] hp
  have hd : cs.dropWhile (fun c => decide (c ≠ '.')) = [] := by
    simpa using @List.dropWhile_append_of_pos _ _ cs [] hp
  have ha : cs.all Char.isDigit = true := List.all_eq_true.2 h
  simp only [read?, ht, hd, List.drop_nil, List.append_nil, List.length_nil]
  rw [if_pos ⟨hne, ha⟩]

theorem read?_of_digits_point {whole fraction : List Char} (hne : whole ++ fraction ≠ [])
    (h : ∀ c ∈ whole ++ fraction, c.isDigit) :
    read? (whole ++ '.' :: fraction) =
      some ⟨Nat.ofDigitChars 10 (whole ++ fraction) 0, fraction.length⟩ := by
  have hp : ∀ c ∈ whole, decide (c ≠ '.') = true := fun c hc =>
    decide_eq_true (ne_point_of_isDigit (h c (List.mem_append_left _ hc)))
  have ht : (whole ++ '.' :: fraction).takeWhile (fun c => decide (c ≠ '.')) = whole := by
    rw [List.takeWhile_append_of_pos hp, List.takeWhile_cons_of_neg (by decide), List.append_nil]
  have hd : (whole ++ '.' :: fraction).dropWhile (fun c => decide (c ≠ '.')) = '.' :: fraction := by
    rw [List.dropWhile_append_of_pos hp, List.dropWhile_cons_of_neg (by decide)]
  have ha : (whole ++ fraction).all Char.isDigit = true := List.all_eq_true.2 h
  simp only [read?, ht, hd, List.drop_succ_cons, List.drop_zero]
  rw [if_pos ⟨hne, ha⟩]

theorem isDigit_of_mem_toDigits {n : Nat} : ∀ c ∈ Nat.toDigits 10 n, c.isDigit := fun _ hc =>
  Nat.isDigit_of_mem_toDigits (by decide) (by decide) hc

theorem isDigit_of_mem_leftpad {n k : Nat} : ∀ c ∈ (Nat.toDigits 10 n).leftpad k '0', c.isDigit := by
  intro c hc
  rcases List.mem_append.1 hc with hc | hc
  · rw [(List.mem_replicate.1 hc).2]; rfl
  · exact isDigit_of_mem_toDigits c hc

/-- A decimal is read back as it was written, the number of its places included. -/
theorem read?_write (d : Decimal) : read? d.write = some d := by
  obtain ⟨n, places⟩ := d
  by_cases h : places = 0
  · subst h
    have hw : write ⟨n, 0⟩ = Nat.toDigits 10 n := by simp [write]
    rw [hw, read?_of_digits Nat.toDigits_ne_nil isDigit_of_mem_toDigits, Nat.ofDigitChars_ten_toDigits]
  · have hlt : n % 10 ^ places < 10 ^ places := Nat.mod_lt _ (Nat.pow_pos (by decide))
    have hlen : ((Nat.toDigits 10 (n % 10 ^ places)).leftpad places '0').length = places := by
      rw [List.length_leftpad]
      exact Nat.max_eq_left ((Nat.length_toDigits_le_iff (by decide) (by omega)).2 hlt)
    simp only [write, h, ↓reduceIte]
    rw [read?_of_digits_point (by simp [Nat.toDigits_ne_nil]), hlen]
    · rw [Nat.ofDigitChars_append, Nat.ofDigitChars_ten_toDigits, Nat.ofDigitChars_eq_ofDigitChars_zero, hlen,
        List.leftpad, Nat.ofDigitChars_append, Nat.ofDigitChars_replicate_zero, Nat.mul_zero,
        Nat.ofDigitChars_ten_toDigits, Nat.div_add_mod]
    · intro c hc
      rcases List.mem_append.1 hc with hc | hc
      · exact isDigit_of_mem_toDigits c hc
      · exact isDigit_of_mem_leftpad c hc

end Decimal

end Calculator
