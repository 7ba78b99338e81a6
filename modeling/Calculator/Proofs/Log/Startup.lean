import Calculator.Log.Startup
import Calculator.Proofs.Log.Directive
import Mathlib.Data.List.Induction

/-!
# Filters and the greeting

Which directive of a filter decides, and what a filter does to the greeting. Directives that are written between commas are
read again; a text that is no filter leaves the default; and only a blank in front of a directive can stop the program.
-/

namespace Calculator.Log

variable {text : String} {filter : Filter} {d e : Directive} {origin : Origin}

namespace Filter

/-! ## The directive that decides -/

theorem deciding?_append_of_not (h : e.appliesTo origin = false) :
    deciding? (filter ++ [e]) origin = deciding? filter origin := by
  simp [deciding?, List.filter_append, h]

theorem deciding?_append (h : e.appliesTo origin) :
    deciding? (filter ++ [e]) origin =
      if (deciding? filter origin).all (·.weight ≤ e.weight) then some e else deciding? filter origin := by
  rw [deciding?, List.filter_append, List.filter_cons_of_pos h, List.filter_nil, List.foldl_append]
  rfl

theorem deciding?_append_ne_none (h : e.appliesTo origin) : deciding? (filter ++ [e]) origin ≠ none := by
  rw [deciding?_append h]
  cases deciding? filter origin with
  | none => simp
  | some best => by_cases hle : best.weight ≤ e.weight <;> simp [hle]

theorem deciding?_eq_none : deciding? filter origin = none ↔ ∀ d ∈ filter, d.appliesTo origin = false := by
  induction filter using List.reverseRecOn with
  | nil => simp [deciding?]
  | append_singleton filter e ih =>
      cases he : e.appliesTo origin with
      | false => simp [deciding?_append_of_not he, ih, or_imp, forall_and, he]
      | true => exact ⟨fun h => absurd h (deciding?_append_ne_none he), fun h => absurd (h e (by simp)) (by simp [he])⟩

/-- The directive applies, no earlier one that applies weighs more, and each later one weighs less. -/
def Decides (filter : Filter) (origin : Origin) (d : Directive) : Prop :=
  ∃ before after, filter = before ++ d :: after ∧ d.appliesTo origin ∧
    (∀ e ∈ before, e.appliesTo origin → e.weight ≤ d.weight) ∧ ∀ e ∈ after, e.appliesTo origin → e.weight < d.weight

theorem Decides.le (h : Decides filter origin d) : ∀ e ∈ filter, e.appliesTo origin → e.weight ≤ d.weight := by
  obtain ⟨before, after, rfl, _, hbefore, hafter⟩ := h
  intro e he happlies
  rcases List.mem_append.mp he with he | he
  · exact hbefore e he happlies
  · rcases List.mem_cons.mp he with rfl | he
    · exact Nat.le_refl _
    · exact Nat.le_of_lt (hafter e he happlies)

/-- The directive decides if what was before the last one decides, unless the last one takes its place. -/
theorem decides_append_iff :
    Decides (filter ++ [e]) origin d ↔
      (Decides filter origin d ∧ (e.appliesTo origin → e.weight < d.weight)) ∨
        (d = e ∧ e.appliesTo origin ∧ ∀ other ∈ filter, other.appliesTo origin → other.weight ≤ e.weight) := by
  constructor
  · rintro ⟨before, after, hsplit, hd, hbefore, hafter⟩
    rcases List.eq_nil_or_concat after with rfl | ⟨rest, last, rfl⟩
    · obtain ⟨rfl, he⟩ := List.append_inj' hsplit rfl
      cases he
      exact .inr ⟨rfl, hd, hbefore⟩
    · rw [List.concat_eq_append, ← List.cons_append, ← List.append_assoc] at hsplit
      obtain ⟨rfl, he⟩ := List.append_inj' hsplit rfl
      cases he
      refine .inl ⟨⟨before, rest, rfl, hd, hbefore, fun other hm => hafter other (by simp [hm])⟩, ?_⟩
      exact hafter e (by simp)
  · rintro (⟨⟨before, after, rfl, hd, hbefore, hafter⟩, he⟩ | ⟨rfl, he, hall⟩)
    · refine ⟨before, after ++ [e], by simp, hd, hbefore, fun other hm => ?_⟩
      rcases List.mem_append.mp hm with hm | hm
      · exact hafter other hm
      · obtain rfl := List.mem_singleton.mp hm
        exact he
    · exact ⟨filter, [], rfl, he, hall, by simp⟩

/-- Of the directives that apply, the weightiest decides, and the last one of those. -/
theorem deciding?_eq_some : deciding? filter origin = some d ↔ Decides filter origin d := by
  -- The search goes from the front, so its last step is about the last directive.
  induction filter using List.reverseRecOn generalizing d with
  | nil => simp [deciding?, Decides]
  | append_singleton filter e ih =>
      rw [decides_append_iff, ← ih]
      cases he : e.appliesTo origin with
      | false => simp [deciding?_append_of_not he]
      | true =>
          rw [deciding?_append he]
          cases hbest : deciding? filter origin with
          | none =>
              have hnone := deciding?_eq_none.mp hbest
              simp +contextual [hnone, eq_comm]
          | some best =>
              have hmax := (ih.mp hbest).le
              obtain ⟨before, after, hsplit, happlies, _⟩ := ih.mp hbest
              have hm : best ∈ filter := by simp [hsplit]
              by_cases hle : best.weight ≤ e.weight
              · have hall : ∀ other ∈ filter, other.appliesTo origin → other.weight ≤ e.weight :=
                  fun other hother h => Nat.le_trans (hmax other hother h) hle
                rw [if_pos (by simpa using hle)]
                constructor
                · rintro ⟨⟩
                  exact .inr ⟨rfl, rfl, hall⟩
                · rintro (⟨⟨⟩, hlt⟩ | ⟨rfl, _⟩)
                  · exact absurd (hlt rfl) (Nat.not_lt_of_le hle)
                  · rfl
              · rw [if_neg (by simpa using hle)]
                constructor
                · rintro ⟨⟩
                  exact .inl ⟨rfl, fun _ => Nat.lt_of_not_le hle⟩
                · rintro (⟨h, _⟩ | ⟨_, _, hall⟩)
                  · exact h
                  · exact absurd (hall best hm happlies) hle

/-! ## Written filters -/

def written (filter : Filter) : String := String.ofList ([','].intercalate (filter.map Directive.written))

theorem mapM_written (h : ∀ d ∈ filter, d.IsWritable) :
    (filter.map Directive.written).mapM Directive.read = .ok filter := by
  induction filter with
  | nil => rfl
  | cons d rest ih =>
      obtain ⟨hd, hrest⟩ := List.forall_mem_cons.mp h
      exact Outcome.mapM_eq_ok_cons.mpr ⟨d, rest, Directive.read_written hd, ih hrest, rfl⟩

/-- A filter is read as it was written. -/
theorem read_written (h : ∀ d ∈ filter, d.IsWritable) : read filter.written = .ok filter := by
  have hcomma : ∀ piece ∈ filter.map Directive.written, ',' ∉ piece := by
    intro piece hm
    obtain ⟨d, hd, rfl⟩ := List.mem_map.mp hm
    exact Directive.comma_notMem_written (h d hd)
  have hne : ∀ piece ∈ filter.map Directive.written, piece ≠ [] := by
    intro piece hm
    obtain ⟨d, hd, rfl⟩ := List.mem_map.mp hm
    exact d.written_ne_nil
  have hpieces : (([','].intercalate (filter.map Directive.written)).splitOn ',').filter (· ≠ []) =
      filter.map Directive.written := by
    cases filter with
    | nil => rfl
    | cons d rest =>
        rw [List.splitOn_intercalate ',' hcomma (by simp), List.filter_eq_self]
        exact fun piece hm => decide_eq_true (hne piece hm)
  rw [read, written, String.toList_ofList, hpieces, mapM_written h]

theorem exists_blank_of_cutCharacter (h : read text = .error .cutCharacter) :
    ∃ part ∈ text.toList.splitOn ',', ∃ c ∈ part.head?, Text.isBlank c := by
  obtain ⟨part, hm, hread⟩ := Outcome.exists_of_mapM_eq_error h
  refine ⟨part, (List.mem_filter.mp hm).1, ?_⟩
  by_contra hno
  refine Directive.read_ne_cutCharacter (fun c hc => ?_) hread
  exact Bool.eq_false_iff.mpr fun hb => hno ⟨c, hc, hb⟩

end Filter

/-! ## The greeting -/

namespace Startup

theorem lines_of_malformed (h : Filter.read text = .error .malformed) : lines (some text) = lines none := by
  simp only [lines, filterOf?, h]

example : lines none = [greeting] := by decide +kernel

theorem greeting_mem_lines (h : Filter.read text = .ok filter) :
    greeting ∈ lines (some text) ↔ filter.admits (Startup.origin greeting) := by
  rw [lines, filterOf?, h]
  simp

/-- The greeting is shown if the directive that decides about it goes down to its level. -/
theorem greeting_mem_lines_written (h : ∀ d ∈ filter, d.IsWritable) :
    greeting ∈ lines (some filter.written) ↔
      ∃ d, filter.Decides (Startup.origin greeting) d ∧ d.threshold.admits .info := by
  rw [greeting_mem_lines (Filter.read_written h), Filter.admits, Option.any_eq_true]
  simp only [Filter.deciding?_eq_some]
  rfl

/-- Only a filter with a blank in front of a directive can stop the program. -/
theorem exists_blank_of_filterOf? (h : filterOf? (some text) = none) :
    ∃ part ∈ text.toList.splitOn ',', ∃ c ∈ part.head?, Text.isBlank c := by
  refine Filter.exists_blank_of_cutCharacter ?_
  simp only [filterOf?] at h
  split at h
  · cases h
  · cases h
  · assumption

example : filterOf? (some " é=info") = none := by decide +kernel

end Startup

end Calculator.Log
