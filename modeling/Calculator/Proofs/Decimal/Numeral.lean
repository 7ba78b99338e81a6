import Calculator.Proofs.Decimal.Reduced
import Mathlib.Algebra.Divisibility.Basic
import Mathlib.Computability.RegularExpressions

/-!
# Numerals

Decimal numerals without superfluous zeros, as the regular expression `-?(0|[1-9][0-9]*)(\.[0-9]*[1-9])?`. A decimal
with no zero in its last place is written as such a numeral.
-/

namespace Calculator

namespace Numeral

open RegularExpression (char)

def oneOf : List Char → RegularExpression Char
  | [] => 0
  | c :: cs => char c + oneOf cs

def optional (e : RegularExpression Char) : RegularExpression Char := 1 + e

def digit : RegularExpression Char := oneOf ['0', '1', '2', '3', '4', '5', '6', '7', '8', '9']

def positiveDigit : RegularExpression Char := oneOf ['1', '2', '3', '4', '5', '6', '7', '8', '9']

def whole : RegularExpression Char := char '0' + positiveDigit * digit.star

def fraction : RegularExpression Char := char '.' * (digit.star * positiveDigit)

def unsigned : RegularExpression Char := whole * optional fraction

def numeral : RegularExpression Char := optional (char '-') * unsigned

example : numeral.rmatch "-10.05".toList ∧ ¬numeral.rmatch "1.50".toList ∧ ¬numeral.rmatch "01".toList := by decide

variable {e : RegularExpression Char} {cs text : List Char} {c : Char}

/-! ## Characters -/

theorem singleton_mem_oneOf (h : c ∈ cs) : [c] ∈ (oneOf cs).matches' := by
  induction cs with
  | nil => cases h
  | cons a as ih =>
      rcases List.mem_cons.mp h with rfl | h
      · exact .inl rfl
      · exact .inr (ih h)

theorem mem_digit (h : c.isDigit) : [c] ∈ digit.matches' := by
  apply singleton_mem_oneOf
  obtain ⟨d, rfl⟩ := Decimal.exists_digitChar h
  revert d
  decide

theorem mem_positiveDigit (h : c.isDigit) (hne : c ≠ '0') : [c] ∈ positiveDigit.matches' := by
  rcases mem_digit h with hzero | hrest
  · exact absurd (List.singleton_inj.mp hzero) hne
  · exact hrest

theorem mem_star (h : ∀ c ∈ text, [c] ∈ e.matches') : text ∈ e.star.matches' :=
  ⟨text.map fun c => [c], by rw [← List.flatMap_def, List.flatMap_singleton'], by simpa using h⟩

/-! ## Digits -/

theorem toDigits_eq_cons {n : Nat} (h : 0 < n) : ∃ c rest, Nat.toDigits 10 n = c :: rest ∧ c ≠ '0' := by
  induction n using Nat.strongRecOn with
  | ind n ih =>
      by_cases hn : n < 10
      · exact ⟨_, [], Nat.toDigits_of_lt_base hn, fun h0 => by have := Nat.digitChar_eq_zero.mp h0; omega⟩
      · obtain ⟨c, rest, hc, hne⟩ := ih (n / 10) (by omega) (by omega)
        refine ⟨c, rest ++ [(n % 10).digitChar], ?_, hne⟩
        rw [Nat.toDigits_of_base_le (by decide) (by omega), hc, List.cons_append]

theorem toDigits_eq_concat (n : Nat) : ∃ before, Nat.toDigits 10 n = before ++ [(n % 10).digitChar] := by
  by_cases hn : n < 10
  · exact ⟨[], by rw [Nat.toDigits_of_lt_base hn, Nat.mod_eq_of_lt hn, List.nil_append]⟩
  · exact ⟨_, Nat.toDigits_of_base_le (by decide) (by omega)⟩

theorem toDigits_mem_whole (n : Nat) : Nat.toDigits 10 n ∈ whole.matches' := by
  rcases Nat.eq_zero_or_pos n with rfl | hpos
  · rw [Nat.toDigits_zero]
    exact .inl rfl
  · obtain ⟨c, rest, hc, hne⟩ := toDigits_eq_cons hpos
    have hdigit : ∀ a ∈ c :: rest, a.isDigit := hc ▸ Decimal.isDigit_of_mem_toDigits
    obtain ⟨hfirst, hrest⟩ := List.forall_mem_cons.mp hdigit
    rw [hc, ← List.singleton_append]
    exact .inr (Language.append_mem_mul (mem_positiveDigit hfirst hne) (mem_star fun a ha => mem_digit (hrest a ha)))

theorem leftpad_mem_fraction {n k : Nat} (h : n % 10 ≠ 0) :
    '.' :: (Nat.toDigits 10 n).leftpad k '0' ∈ fraction.matches' := by
  have hdigit : ∀ c ∈ (Nat.toDigits 10 n).leftpad k '0', c.isDigit := Decimal.isDigit_of_mem_leftpad
  obtain ⟨before, hb⟩ := toDigits_eq_concat n
  rw [List.leftpad, hb, ← List.append_assoc] at hdigit ⊢
  rw [List.forall_mem_append, List.forall_mem_singleton] at hdigit
  have hlast : (n % 10).digitChar ≠ '0' := fun h0 => h (Nat.digitChar_eq_zero.mp h0)
  exact Language.append_mem_mul (a := ['.']) rfl
    (Language.append_mem_mul (mem_star fun c hc => mem_digit (hdigit.1 c hc)) (mem_positiveDigit hdigit.2 hlast))

/-! ## Signs -/

theorem mem_numeral (h : text ∈ unsigned.matches') : text ∈ numeral.matches' :=
  Language.append_mem_mul (a := []) (.inl rfl) h

theorem minus_mem_numeral (h : text ∈ unsigned.matches') : '-' :: text ∈ numeral.matches' :=
  Language.append_mem_mul (a := ['-']) (.inr rfl) h

end Numeral

open Numeral

theorem Decimal.write_mem_unsigned {d : Decimal} (h : d.IsReduced) : d.write ∈ unsigned.matches' := by
  unfold write
  dsimp only
  split
  · rw [← List.append_nil (Nat.toDigits 10 _)]
    exact Language.append_mem_mul (toDigits_mem_whole _) (.inl rfl)
  · rename_i hplaces
    have hlast : d.coefficient % 10 ^ d.places % 10 ≠ 0 := by
      rw [Nat.mod_mod_of_dvd _ (dvd_pow_self 10 hplaces)]
      exact h.resolve_left hplaces
    exact Language.append_mem_mul (toDigits_mem_whole _) (.inr (leftpad_mem_fraction hlast))

end Calculator
