import Calculator.Proofs.Double.ReadBack
import Mathlib.Data.List.Nodup

/-!
# Plain texts of all doubles

A finite double reads back from its text, and the others have texts that are no decimals. So every double has a text of its
own, which has at least one character and no space.
-/

namespace Calculator.Double

variable {x y : Double}

/-! ## Doubles that are not finite -/

def nonfinite : List Double := [nan, signed false .infinite, signed true .infinite]

theorem mem_nonfinite (h : ¬x.isFinite) : x ∈ nonfinite := by
  cases x with
  | nan => exact List.mem_cons_self
  | signed s m =>
      obtain ⟨rank, hr⟩ := m
      have hinf : rank = Magnitude.infiniteRank := by simpa [isFinite, Magnitude.isInfinite] using h
      subst hinf
      cases s with
      | false => exact List.mem_cons_of_mem _ List.mem_cons_self
      | true => exact List.mem_cons_of_mem _ (List.mem_cons_of_mem _ List.mem_cons_self)

theorem ofText?_of_mem_nonfinite : ∀ x ∈ nonfinite, ofText? x.text.toList = none := by decide

theorem nodup_nonfinite : (nonfinite.map text).Nodup := by decide

/-! ## All doubles -/

theorem ofText?_text_eq (x : Double) : ofText? x.text.toList = if x.isFinite then some x else none := by
  split
  · rename_i hx
    exact ofText?_text hx
  · rename_i hx
    exact ofText?_of_mem_nonfinite x (mem_nonfinite hx)

theorem text_inj (h : x.text = y.text) : x = y := by
  have hread := ofText?_text_eq x
  rw [h, ofText?_text_eq] at hread
  by_cases hx : x.isFinite
  · by_cases hy : y.isFinite
    · rw [if_pos hx, if_pos hy] at hread
      exact (Option.some.inj hread).symm
    · rw [if_pos hx, if_neg hy] at hread
      cases hread
  · by_cases hy : y.isFinite
    · rw [if_neg hx, if_pos hy] at hread
      cases hread
    · exact List.inj_on_of_nodup_map nodup_nonfinite (mem_nonfinite hx) (mem_nonfinite hy) h

/-- No text of a double is empty or has a space. -/
theorem isWord_text (x : Double) : x.text.toList ≠ [] ∧ ' ' ∉ x.text.toList := by
  have hnonfinite : ∀ x ∈ nonfinite, x.text.toList ≠ [] ∧ ' ' ∉ x.text.toList := by decide
  by_cases hx : x.isFinite
  · obtain ⟨s, m, rfl, hm⟩ := eq_signed hx
    have hspace : ' ' ∉ (signed false m).text.toList := by
      rw [text_of_isFinite hm]
      intro hc
      cases Decimal.isLiteralChar_of_mem_write _ _ hc
    constructor
    · intro he
      have hread := ofText?_text hx
      rw [he] at hread
      cases hread
    · cases s with
      | false => exact hspace
      | true =>
          rw [text_negative, String.toList_append, List.mem_append, not_or]
          exact ⟨by decide, hspace⟩
  · exact hnonfinite x (mem_nonfinite hx)

end Calculator.Double
