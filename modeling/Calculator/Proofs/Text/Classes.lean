import Calculator.Text.Quoted

/-!
# Tables of characters

The ranges of each table are in increasing order. So the search that stops at the first range that begins too high tells
exactly which characters a class has.
-/

namespace Calculator.Text

/-- The ranges begin at the bound or after it, and each ends before the next one begins. -/
def IncreasingFrom (bound : Nat) : List (Nat × Nat) → Prop
  | [] => True
  | (first, last) :: rest => bound ≤ first ∧ first ≤ last ∧ IncreasingFrom (last + 1) rest

instance (bound : Nat) : DecidablePred (IncreasingFrom bound) :=
  go bound
where
  go (bound : Nat) : (ranges : List (Nat × Nat)) → Decidable (IncreasingFrom bound ranges)
    | [] => .isTrue trivial
    | (first, last) :: rest =>
      have := go (last + 1) rest
      inferInstanceAs (Decidable (bound ≤ first ∧ first ≤ last ∧ IncreasingFrom (last + 1) rest))

variable {n bound : Nat} {ranges : List (Nat × Nat)} {c : Char} {text : List Char}

theorem IncreasingFrom.le (h : IncreasingFrom bound ranges) : ∀ range ∈ ranges, bound ≤ range.1 := by
  induction ranges generalizing bound with
  | nil => simp
  | cons range rest ih =>
      obtain ⟨hfirst, hlast, hrest⟩ := h
      refine List.forall_mem_cons.mpr ⟨hfirst, fun other hm => ?_⟩
      have hle := ih hrest other hm
      omega

theorem exists_range (h : inRanges n ranges) : ∃ range ∈ ranges, range.1 ≤ n ∧ n ≤ range.2 := by
  induction ranges with
  | nil => cases h
  | cons range rest ih =>
      obtain ⟨hfirst, h⟩ := (Bool.and_eq_true _ _).mp h
      rcases (Bool.or_eq_true _ _).mp h with hlast | hrest
      · exact ⟨range, List.mem_cons_self, of_decide_eq_true hfirst, of_decide_eq_true hlast⟩
      · obtain ⟨found, hm, hn⟩ := ih hrest
        exact ⟨found, List.mem_cons_of_mem _ hm, hn⟩

/-- Nothing is missed by not looking past the first range that begins too high. -/
theorem inRanges_iff (h : IncreasingFrom bound ranges) :
    inRanges n ranges ↔ ∃ range ∈ ranges, range.1 ≤ n ∧ n ≤ range.2 := by
  refine ⟨exists_range, ?_⟩
  induction ranges generalizing bound with
  | nil => simp
  | cons range rest ih =>
      obtain ⟨_, hlast, hrest⟩ := h
      rintro ⟨found, hm, hle, hge⟩
      rcases List.mem_cons.mp hm with rfl | hm
      · simp [inRanges, hle, hge]
      · have hnext := hrest.le found hm
        have hfound := ih hrest ⟨found, hm, hle, hge⟩
        have hfirst : range.1 ≤ n := by omega
        simp [inRanges, hfirst, hfound]

theorem isBlank_iff : isBlank c ↔ ∃ range ∈ blanks, range.1 ≤ c.toNat ∧ c.toNat ≤ range.2 :=
  inRanges_iff (show IncreasingFrom 0 blanks by decide +kernel)

theorem isAlphabetic_iff : isAlphabetic c ↔ ∃ range ∈ alphabetics, range.1 ≤ c.toNat ∧ c.toNat ≤ range.2 :=
  inRanges_iff (show IncreasingFrom 0 alphabetics by decide +kernel)

theorem isAlphanumeric_iff :
    isAlphanumeric c ↔ isAlphabetic c ∨ ∃ range ∈ numerics, range.1 ≤ c.toNat ∧ c.toNat ≤ range.2 := by
  have hnumeric := inRanges_iff (n := c.toNat) (show IncreasingFrom 0 numerics by decide +kernel)
  rw [isAlphanumeric, Bool.or_eq_true, hnumeric]

theorem isPrintable_iff : isPrintable c ↔ ∀ range ∈ unprintables, range.1 ≤ c.toNat → range.2 < c.toNat := by
  have hranges := inRanges_iff (n := c.toNat) (show IncreasingFrom 0 unprintables by decide +kernel)
  rw [isPrintable, Bool.not_eq_true', ← Bool.not_eq_true, hranges]
  simp

theorem isAlphanumeric_of_isAlphanum (h : c.isAlphanum) : isAlphanumeric c := by
  rw [isAlphanumeric_iff, isAlphabetic_iff]
  rcases (Bool.or_eq_true _ _).mp h with halpha | hdigit
  · rcases (Bool.or_eq_true _ _).mp halpha with hupper | hlower
    · obtain ⟨hfirst, hlast⟩ := of_decide_eq_true hupper
      exact .inl ⟨(0x41, 0x5a), List.mem_cons_self, hfirst, hlast⟩
    · obtain ⟨hfirst, hlast⟩ := (Bool.and_eq_true _ _).mp hlower
      exact .inl ⟨(0x61, 0x7a), by decide, of_decide_eq_true hfirst, of_decide_eq_true hlast⟩
  · obtain ⟨hfirst, hlast⟩ := (Bool.and_eq_true _ _).mp hdigit
    exact .inr ⟨(0x30, 0x39), List.mem_cons_self, of_decide_eq_true hfirst, of_decide_eq_true hlast⟩

/-- No letter or digit is a blank. -/
theorem isBlank_eq_false (h : isAlphanumeric c) : isBlank c = false := by
  have hdisjoint : ∀ range ∈ blanks, ∀ n ∈ List.range' range.1 (range.2 + 1 - range.1),
      inRanges n alphabetics = false ∧ inRanges n numerics = false := by decide +kernel
  refine Bool.eq_false_iff.mpr fun hb => ?_
  obtain ⟨range, hm, hle, hge⟩ := exists_range hb
  obtain ⟨ha, hn⟩ := hdisjoint range hm c.toNat (List.mem_range'_1.mpr ⟨hle, by omega⟩)
  rw [isAlphanumeric, isAlphabetic, ha, hn] at h
  cases h

/-! ## Blanks around a text -/

theorem dropWhile_isBlank (h : ∀ c ∈ text.head?, isBlank c = false) : text.dropWhile isBlank = text := by
  cases text with
  | nil => rfl
  | cons c rest => exact List.dropWhile_cons_of_neg (by simp [h c rfl])

theorem exists_trim_append (h : ∀ c ∈ text.head?, isBlank c = false) : ∃ back, text = trim text ++ back := by
  have hback : text.reverse.takeWhile isBlank ++ text.reverse.dropWhile isBlank = text.reverse :=
    List.takeWhile_append_dropWhile
  refine ⟨(text.reverse.takeWhile isBlank).reverse, ?_⟩
  rw [trim, dropWhile_isBlank h, ← List.reverse_append, hback, List.reverse_reverse]

theorem trim_eq_self (h : ∀ c ∈ text.head?, isBlank c = false) (hlast : ∀ c ∈ text.getLast?, isBlank c = false) :
    trim text = text := by
  rw [trim, dropWhile_isBlank h, dropWhile_isBlank (by simpa using hlast), List.reverse_reverse]

end Calculator.Text
