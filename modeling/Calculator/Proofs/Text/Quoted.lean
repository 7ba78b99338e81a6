import Calculator.Decimal.Basic
import Calculator.Text.Quoted

/-!
# Quoted texts read back

What stands for a character in a quoted text is read back as the character, whatever comes behind it, and does not start
with a quotation mark. So the mark at the end is the first that stands for itself, and no two texts are quoted alike.
-/

namespace Calculator.Text

variable {c : Char}

/-! ## Hexadecimal digits -/

def hexValue (c : Char) : Nat := if c.isDigit then c.toNat - 48 else c.toNat - 87

def readHex (digits : List Char) : Nat := digits.foldl (fun n c => 16 * n + hexValue c) 0

theorem hexValue_digitChar {d : Nat} (h : d < 16) : hexValue (Nat.digitChar d) = d := by
  have hall : ∀ d : Fin 16, hexValue (Nat.digitChar d) = d := by decide
  exact hall ⟨d, h⟩

theorem readHex_toDigits (n : Nat) : readHex (Nat.toDigits 16 n) = n := by
  induction n using Nat.strongRecOn with
  | ind n ih =>
      by_cases hn : n < 16
      · rw [Nat.toDigits_of_lt_base hn, readHex, List.foldl_cons, List.foldl_nil, hexValue_digitChar hn]
        omega
      · have hlast := hexValue_digitChar (Nat.mod_lt n (show 16 > 0 by decide))
        have hfront := ih (n / 16) (by omega)
        rw [readHex] at hfront
        rw [Nat.toDigits_of_base_le (by decide) (Nat.le_of_not_lt hn), readHex, List.foldl_append, hfront,
          List.foldl_cons, List.foldl_nil, hlast]
        omega

theorem ne_brace_of_mem_toDigits (n : Nat) : ∀ c ∈ Nat.toDigits 16 n, c ≠ '\x7d' := by
  have hall : ∀ d : Fin 16, Nat.digitChar d ≠ '\x7d' := by decide
  induction n using Nat.strongRecOn with
  | ind n ih =>
      by_cases hn : n < 16
      · rw [Nat.toDigits_of_lt_base hn]
        exact List.forall_mem_singleton.mpr (hall ⟨n, hn⟩)
      · rw [Nat.toDigits_of_base_le (by decide) (Nat.le_of_not_lt hn), List.forall_mem_append]
        exact ⟨ih (n / 16) (by omega), List.forall_mem_singleton.mpr (hall ⟨n % 16, Nat.mod_lt n (by decide)⟩)⟩

/-! ## Escaped characters -/

def ofLetter : Char → Char
  | 'n' => '\n'
  | 'r' => '\r'
  | 't' => '\t'
  | '0' => '\x00'
  | c => c

/-- The character that a quoted text goes on with, and the text behind it. -/
def readEscape? : List Char → Option (Char × List Char)
  | [] => none
  | '\\' :: 'u' :: '\x7b' :: rest =>
    let digits := rest.takeWhile (· ≠ '\x7d')
    some (Char.ofNat (readHex digits), rest.drop (digits.length + 1))
  | '\\' :: letter :: rest => some (ofLetter letter, rest)
  | c :: rest => some (c, rest)

theorem readEscape?_code (c : Char) (rest : List Char) :
    readEscape? ('\\' :: 'u' :: '\x7b' :: (Nat.toDigits 16 c.toNat ++ '\x7d' :: rest)) = some (c, rest) := by
  have hdigits : ∀ d ∈ Nat.toDigits 16 c.toNat, decide (d ≠ '\x7d') = true := fun d hd =>
    decide_eq_true (ne_brace_of_mem_toDigits c.toNat d hd)
  have htake : (Nat.toDigits 16 c.toNat ++ '\x7d' :: rest).takeWhile (fun d => decide (d ≠ '\x7d')) =
      Nat.toDigits 16 c.toNat := by
    rw [List.takeWhile_append_of_pos hdigits, List.takeWhile_cons_of_neg (by decide), List.append_nil]
  simp only [readEscape?, htake, readHex_toDigits, Char.ofNat_toNat]
  rw [← List.drop_drop, List.drop_left, List.drop_succ_cons, List.drop_zero]

theorem readEscape?_plain (h : c ≠ '\\') (rest : List Char) : readEscape? (c :: rest) = some (c, rest) := by
  unfold readEscape?
  split <;> simp_all

theorem readEscape?_escape (c : Char) (rest : List Char) : readEscape? (escape c ++ rest) = some (c, rest) := by
  unfold escape
  split
  · rfl
  · rfl
  · rfl
  · rfl
  · rfl
  · rfl
  · rename_i hbackslash _ _ _ _
    split
    · exact readEscape?_plain hbackslash rest
    · rw [List.append_assoc, List.append_assoc]
      exact readEscape?_code c rest

theorem escape_append_ne_quote (c : Char) (rest more : List Char) : escape c ++ rest ≠ '"' :: more := by
  intro h
  have hread := readEscape?_escape c rest
  rw [h, readEscape?_plain (by decide)] at hread
  cases hread
  cases h

/-! ## Quoted texts -/

theorem flatMap_escape_inj {s t x y : List Char}
    (h : s.flatMap escape ++ '"' :: x = t.flatMap escape ++ '"' :: y) : s = t ∧ x = y := by
  induction s generalizing t with
  | nil => cases t with
      | nil => exact ⟨rfl, (List.cons.inj h).2⟩
      | cons d t =>
          rw [List.flatMap_cons, List.append_assoc] at h
          exact absurd h.symm (escape_append_ne_quote d _ _)
  | cons c s ih =>
      rw [List.flatMap_cons, List.append_assoc] at h
      cases t with
      | nil => exact absurd h (escape_append_ne_quote c _ _)
      | cons d t =>
          rw [List.flatMap_cons, List.append_assoc] at h
          have hread := readEscape?_escape c (s.flatMap escape ++ '"' :: x)
          rw [h, readEscape?_escape] at hread
          obtain ⟨rfl, hrest⟩ := Prod.mk.inj (Option.some.inj hread)
          obtain ⟨rfl, hxy⟩ := ih hrest.symm
          exact ⟨rfl, hxy⟩

theorem quoted_inj {s t : String} (h : quoted s = quoted t) : s = t := by
  have hlist := List.cons.inj (String.ofList_injective h)
  exact String.toList_inj.mp (flatMap_escape_inj hlist.2).1

end Calculator.Text
