import Calculator.Log.Directive
import Calculator.Proofs.Outcome
import Calculator.Proofs.Pattern
import Calculator.Proofs.Text.Classes
import Mathlib.Data.List.TakeDrop

/-!
# Reading directives

A directive that is written out is read as it was. Its parts are cut out of the text at positions that were found without
the blanks in front of it, so where there are none every cut falls between two characters.
-/

namespace Calculator.Log

open Text (byteSize byteSize_append)

/-! ## Thresholds -/

namespace Threshold

def name : Threshold → String
  | off => "OFF"
  | upTo level => level.name

theorem read?_name (threshold : Threshold) : read? threshold.name.toList = some threshold := by
  cases threshold with
  | off => rfl
  | upTo level => cases level <;> rfl

theorem name_ne_nil (threshold : Threshold) : threshold.name.toList ≠ [] := by
  cases threshold with
  | off => decide
  | upTo level => cases level <;> decide

theorem isAlphanum_name (threshold : Threshold) : threshold.name.toList.all Char.isAlphanum := by
  cases threshold with
  | off => rfl
  | upTo level => cases level <;> rfl

theorem comma_notMem_name (threshold : Threshold) : ',' ∉ threshold.name.toList := fun h =>
  absurd (List.all_eq_true.mp threshold.isAlphanum_name ',' h) (by decide)

theorem isBlank_name (threshold : Threshold) : ∀ c ∈ threshold.name.toList, Text.isBlank c = false := fun c hc =>
  Text.isBlank_eq_false (Text.isAlphanumeric_of_isAlphanum (List.all_eq_true.mp threshold.isAlphanum_name c hc))

end Threshold

namespace Directive

variable {text back part rest name : List Char} {start : Nat} {d : Directive} {threshold : Threshold}

/-! ## Positions -/

/-- After so many bytes the text goes on like this, up to what it ends with. -/
def IsAt (back text : List Char) (start : Nat) (rest : List Char) : Prop :=
  ∃ front, text = front ++ (rest ++ back) ∧ byteSize front = start

theorem IsAt.skip (part : List Char) (h : IsAt back text start (part ++ rest)) :
    IsAt back text (start + byteSize part) rest := by
  obtain ⟨front, rfl, rfl⟩ := h
  exact ⟨front ++ part, by simp, byteSize_append front part⟩

theorem IsAt.cut_eq (h : IsAt back text start (part ++ rest)) :
    cut text start (start + byteSize part) = .ok (String.ofList part) := by
  obtain ⟨front, rfl, rfl⟩ := h
  rw [cut, List.append_assoc, Text.cut?_append]
  rfl

theorem IsAt.dropBytes?_eq (h : IsAt back text start rest) : Text.dropBytes? start text = some (rest ++ back) := by
  obtain ⟨front, rfl, rfl⟩ := h
  exact Text.dropBytes?_append front (rest ++ back)

theorem exists_span (p : Char → Bool) (text : List Char) :
    ∃ inner outer, text.span p = (inner, outer) ∧ text = inner ++ outer ∧ ∀ c ∈ outer.head?, p c = false := by
  refine ⟨_, _, text.span_eq_takeWhile_dropWhile p, List.takeWhile_append_dropWhile.symm, fun c hc => ?_⟩
  have h := List.head?_dropWhile_not p text
  rw [hc] at h
  exact h

/-! ## Cuts -/

theorem readThreshold_ne_cutCharacter (h : IsAt back text start rest) :
    readThreshold text start d ≠ .error .cutCharacter := by
  rw [readThreshold, h.dropBytes?_eq]
  cases rest ++ back with
  | nil => simp
  | cons c level =>
      dsimp only
      cases Threshold.read? (c :: level) with
      | none => simp
      | some threshold => simp

theorem readEnd_ne_cutCharacter (h : IsAt back text start rest) : readEnd text start d rest ≠ .error .cutCharacter := by
  unfold readEnd
  split
  · simp
  · exact readThreshold_ne_cutCharacter (h.skip ['='])
  · simp

theorem readField_ne_cutCharacter (h : IsAt back text start rest) :
    readField text start d rest ≠ .error .cutCharacter := by
  obtain ⟨inner, outer, hspan, rfl, _⟩ := exists_span (· ≠ '\x7d') rest
  rw [readField, hspan]
  dsimp only
  split
  · rw [h.cut_eq, Outcome.ok_bind]
    split
    · simp
    · split
      · exact readEnd_ne_cutCharacter ((h.skip _).skip ['\x7d', ']'])
      · simp
  · simp

theorem readSpan_ne_cutCharacter (h : IsAt back text start rest) : readSpan text start d rest ≠ .error .cutCharacter := by
  obtain ⟨inner, outer, hspan, rfl, _⟩ := exists_span (fun c => c ≠ ']' ∧ c ≠ '\x7b') rest
  rw [readSpan, hspan]
  dsimp only
  split
  · rw [h.cut_eq, Outcome.ok_bind]
    exact readEnd_ne_cutCharacter ((h.skip _).skip [']'])
  · rw [h.cut_eq, Outcome.ok_bind]
    exact readField_ne_cutCharacter ((h.skip _).skip ['\x7b'])
  · simp

/-- Nothing but a blank in front can move a cut into a character. -/
theorem read_ne_cutCharacter (h : ∀ c ∈ text.head?, Text.isBlank c = false) : read text ≠ .error .cutCharacter := by
  obtain ⟨back, hback⟩ := Text.exists_trim_append h
  have hat : IsAt back text 0 (Text.trim text) := ⟨[], hback, rfl⟩
  unfold read
  split
  · simp
  · rename_i htrim
    rw [htrim] at hat
    exact readSpan_ne_cutCharacter (hat.skip ['['])
  · rename_i first trimmed _ htrim
    rw [htrim] at hat
    split
    · simp
    · obtain ⟨inner, outer, hspan, hsplit, hstop⟩ := exists_span (fun c => c ≠ '=' ∧ c ≠ '[') (first :: trimmed)
      rw [hsplit] at hat
      have hcut := hat.cut_eq
      have hskip := hat.skip inner
      rw [Nat.zero_add] at hcut hskip
      rw [hspan]
      dsimp only
      split
      · simp
      · rw [hcut, Outcome.ok_bind]
        exact readThreshold_ne_cutCharacter (hskip.skip ['='])
      · rename_i c rest hne
        have hc : ¬(c ≠ '=' ∧ c ≠ '[') := of_decide_eq_false (hstop c rfl)
        obtain rfl : c = '[' := Decidable.of_not_not fun h => hc ⟨hne, h⟩
        rw [hcut, Outcome.ok_bind]
        exact readSpan_ne_cutCharacter (hskip.skip ['['])

/-! ## Written directives -/

/-- What stands in brackets behind the target, if anything does. -/
def brackets : Option String → Option String → List Char
  | none, none => []
  | span, none => '[' :: ((span.getD "").toList ++ [']'])
  | span, some field => '[' :: ((span.getD "").toList ++ '\x7b' :: (field.toList ++ ['\x7d', ']']))

/-- How a directive is written. A threshold alone has no equals sign. -/
def written (d : Directive) : List Char :=
  match d.target, brackets d.span d.field with
  | none, [] => d.threshold.name.toList
  | target, brackets => (target.getD "").toList ++ (brackets ++ '=' :: d.threshold.name.toList)

/-- A name that is told apart as the target of a directive. -/
def IsTarget (name : List Char) : Prop := (∃ c ∈ name.head?, startsTarget c) ∧ ∀ c ∈ name, c ≠ '=' ∧ c ≠ '['

/-- No part has a character that would end it, and none is left out as if it were empty. -/
structure IsWritable (d : Directive) : Prop where
  target : ∀ name ∈ d.target, IsTarget name.toList ∧ ',' ∉ name.toList
  span : ∀ name ∈ d.span, ∀ c ∈ name.toList, c ∉ [']', '\x7b', ',']
  field : ∀ field ∈ d.field, field ≠ "" ∧ hasValidValue field.toList ∧ ∀ c ∈ field.toList, c ∉ ['\x7d', ',']
  unnamed : d.field.isSome → d.span ≠ some ""

theorem hasValidValue_of_notMem_specials {field : List Char} (h : ∀ c ∈ field, c ∉ Pattern.specials) :
    hasValidValue field := by
  unfold hasValidValue
  split
  · rfl
  · rename_i rest hdrop
    have hvalue : rest.takeWhile (· ≠ '=') ⊆ field.dropWhile (· ≠ '=') := by
      rw [hdrop]
      exact fun c hc => List.mem_cons_of_mem _ ((List.takeWhile_sublist _).subset hc)
    have hpattern := Pattern.isValid_of_notMem_specials fun c hc =>
      h c ((List.dropWhile_sublist _).subset (hvalue hc))
    exact (Bool.or_eq_true _ _).mpr (.inr hpattern)

theorem span_append {p : Char → Bool} {c : Char} (hpart : ∀ c ∈ part, p c) (hc : p c = false) :
    (part ++ c :: rest).span p = (part, c :: rest) := by
  rw [List.span_eq_takeWhile_dropWhile, List.takeWhile_append_of_pos hpart, List.dropWhile_append_of_pos hpart]
  simp [hc]

theorem readThreshold_name (h : IsAt [] text start threshold.name.toList) :
    readThreshold text start d = .ok { d with threshold } := by
  rw [readThreshold, h.dropBytes?_eq, List.append_nil]
  have hread := threshold.read?_name
  cases hname : threshold.name.toList with
  | nil => exact absurd hname threshold.name_ne_nil
  | cons c level =>
      rw [hname] at hread
      simp only [hread]

theorem readEnd_name (h : IsAt [] text start ('=' :: threshold.name.toList)) :
    readEnd text start d ('=' :: threshold.name.toList) = .ok { d with threshold } :=
  readThreshold_name (h.skip ['='])

theorem readField_text {field : String} (hne : field ≠ "") (hvalue : hasValidValue field.toList)
    (hend : ∀ c ∈ field.toList, c ≠ '\x7d')
    (h : IsAt [] text start (field.toList ++ '\x7d' :: ']' :: '=' :: threshold.name.toList)) :
    readField text start d (field.toList ++ '\x7d' :: ']' :: '=' :: threshold.name.toList) =
      .ok { d with field := some field, threshold } := by
  have hfield : ¬(field = "" ∨ (!hasValidValue field.toList) = true) := by simp [hne, hvalue]
  rw [readField, span_append (by simpa using hend) (by decide)]
  simp only [h.cut_eq, Outcome.ok_bind, String.ofList_toList, if_neg hfield]
  exact readEnd_name ((h.skip _).skip ['\x7d', ']'])

theorem IsWritable.notMem_span (h : d.IsWritable) : ∀ c ∈ (d.span.getD "").toList, c ∉ [']', '\x7b', ','] := by
  intro c hc
  cases hs : d.span with
  | none =>
      rw [hs] at hc
      cases hc
  | some name =>
      rw [hs] at hc
      exact h.span name hs c hc

theorem IsWritable.span_eq (h : d.IsWritable) (hf : d.field.isSome) :
    (if d.span.getD "" = "" then none else some (d.span.getD "")) = d.span := by
  have hne := h.unnamed hf
  cases hs : d.span with
  | none => rfl
  | some name =>
      rw [hs] at hne
      exact if_neg fun h => hne (congrArg some h)

theorem exists_brackets (h : d.IsWritable) (hne : brackets d.span d.field ≠ []) :
    ∃ inner, brackets d.span d.field = '[' :: inner ∧
      ∀ text start, IsAt [] text start (inner ++ '=' :: d.threshold.name.toList) →
        readSpan text start { target := d.target } (inner ++ '=' :: d.threshold.name.toList) = .ok d := by
  have hspan : ∀ c ∈ (d.span.getD "").toList, decide (c ≠ ']' ∧ c ≠ '\x7b') := by
    intro c hc
    have hnot := h.notMem_span c hc
    simp only [List.mem_cons, not_or] at hnot
    exact decide_eq_true ⟨hnot.1, hnot.2.1⟩
  have heq := h.span_eq
  obtain ⟨target, span, field, threshold⟩ := d
  cases field with
  | none => cases span with
      | none => exact absurd rfl hne
      | some name =>
          refine ⟨name.toList ++ [']'], rfl, fun text start hat => ?_⟩
          rw [List.append_assoc, List.singleton_append] at hat ⊢
          rw [readSpan, span_append (by exact hspan) (by decide)]
          simp only [hat.cut_eq, Outcome.ok_bind, String.ofList_toList]
          exact readEnd_name ((hat.skip _).skip [']'])
  | some field =>
      obtain ⟨hnonempty, hvalue, hend⟩ := h.field field rfl
      refine ⟨(span.getD "").toList ++ '\x7b' :: (field.toList ++ ['\x7d', ']']), by cases span <;> rfl,
        fun text start hat => ?_⟩
      simp only [List.append_assoc, List.cons_append, List.nil_append] at hat ⊢
      rw [readSpan, span_append (by exact hspan) (by decide)]
      simp only [hat.cut_eq, Outcome.ok_bind, String.ofList_toList]
      refine (readField_text hnonempty hvalue (fun c hc he => hend c hc (by simp [he]))
        ((hat.skip _).skip ['\x7b'])).trans ?_
      exact congrArg (fun span => Except.ok (Directive.mk target span (some field) threshold)) (heq rfl)

theorem isBlank_of_startsTarget {c : Char} (h : startsTarget c) : Text.isBlank c = false := by
  rcases (Bool.or_eq_true _ _).mp h with hmark | hname
  · have hmark : c = '-' ∨ c = ':' ∨ c = '_' := by simpa using hmark
    rcases hmark with rfl | rfl | rfl <;> rfl
  · exact Text.isBlank_eq_false hname

theorem trim_name (front : List Char) (h : ∀ c ∈ front.head?, Text.isBlank c = false) (threshold : Threshold) :
    Text.trim (front ++ threshold.name.toList) = front ++ threshold.name.toList := by
  have hname := threshold.isBlank_name
  have hne := threshold.name_ne_nil
  refine Text.trim_eq_self ?_ ?_
  · cases front with
    | nil => exact fun c hc => hname c (List.mem_of_mem_head? hc)
    | cons c front => exact h
  · intro c hc
    rw [List.getLast?_append, List.getLast?_eq_some_getLast hne, Option.some_or] at hc
    obtain rfl := Option.mem_some.mp hc
    exact hname _ (List.getLast_mem hne)

theorem written_eq (h : d.target = none → brackets d.span d.field ≠ []) :
    d.written = (d.target.getD "").toList ++ (brackets d.span d.field ++ '=' :: d.threshold.name.toList) := by
  unfold written
  split
  · rename_i ht hb
    exact absurd hb (h ht)
  · rfl

theorem read_written_of_brackets (h : d.IsWritable) (ht : d.target = none) (hb : brackets d.span d.field ≠ []) :
    read d.written = .ok d := by
  obtain ⟨inner, hinner, hread⟩ := exists_brackets h hb
  have htrim := trim_name ('[' :: (inner ++ ['='])) (fun c hc => by cases hc; decide) d.threshold
  have hat : IsAt [] ('[' :: (inner ++ '=' :: d.threshold.name.toList)) 1 (inner ++ '=' :: d.threshold.name.toList) :=
    ⟨['['], by simp, rfl⟩
  rw [written_eq fun _ => hb, ht, hinner]
  simp only [List.cons_append, List.append_assoc, List.nil_append] at htrim
  change read ('[' :: (inner ++ '=' :: d.threshold.name.toList)) = _
  rw [read, htrim]
  rw [ht] at hread
  exact hread _ 1 hat

theorem read_of_target {c : Char} (hname : IsTarget name) (hc : c = '=' ∨ c = '[') (h : Text.trim text = name ++ c :: rest) :
    read text = cut text 0 (byteSize name) >>= fun target =>
      if c = '=' then readThreshold text (byteSize name + 1) { target := some target }
      else readSpan text (byteSize name + 1) { target := some target } rest := by
  obtain ⟨⟨first, hfirst, hstart⟩, hinside⟩ := hname
  obtain ⟨more, rfl⟩ : ∃ more, name = first :: more := List.head?_eq_some_iff.mp hfirst
  have hspan : (first :: (more ++ c :: rest)).span (fun c => c ≠ '=' ∧ c ≠ '[') = (first :: more, c :: rest) :=
    span_append (fun c hc => decide_eq_true (hinside c hc)) (by rcases hc with rfl | rfl <;> decide)
  rw [List.cons_append] at h
  unfold read
  split
  · rename_i ht
    rw [h] at ht
    cases ht
  · rename_i ht
    rw [h] at ht
    cases ht
    exact absurd rfl (hinside '[' List.mem_cons_self).2
  · rename_i ht
    rw [h] at ht
    cases ht
    rw [if_neg (by simp [hstart]), hspan]
    rcases hc with rfl | rfl
    · rfl
    · rfl

theorem IsTarget.trim_append (hname : IsTarget name) (inner : List Char) (threshold : Threshold) :
    Text.trim (name ++ (inner ++ '=' :: threshold.name.toList)) = name ++ (inner ++ '=' :: threshold.name.toList) := by
  obtain ⟨⟨first, hfirst, hstart⟩, _⟩ := hname
  obtain ⟨more, rfl⟩ := List.head?_eq_some_iff.mp hfirst
  have hblank := isBlank_of_startsTarget hstart
  simpa using trim_name (first :: (more ++ (inner ++ ['=']))) (by simp [hblank]) threshold

theorem read_written_of_target {name : String} (h : d.IsWritable) (ht : d.target = some name) :
    read d.written = .ok d := by
  obtain ⟨hname, _⟩ := h.target name ht
  have hwritten : d.written = name.toList ++ (brackets d.span d.field ++ '=' :: d.threshold.name.toList) := by
    rw [written_eq fun hn => absurd (ht.symm.trans hn) (by simp), ht, Option.getD_some]
  have htrim : Text.trim d.written = d.written := by rw [hwritten, hname.trim_append]
  have hat : IsAt [] d.written 0 (name.toList ++ (brackets d.span d.field ++ '=' :: d.threshold.name.toList)) :=
    ⟨[], by rw [hwritten]; simp, rfl⟩
  have hcut := hat.cut_eq
  have hskip := hat.skip name.toList
  rw [Nat.zero_add] at hcut hskip
  by_cases hb : brackets d.span d.field = []
  · have hnone : d.span = none ∧ d.field = none := by
      cases hs : d.span <;> cases hf : d.field <;> simp [hs, hf, brackets] at hb ⊢
    rw [hb, List.nil_append] at hwritten hskip
    rw [read_of_target hname (.inl rfl) (htrim.trans hwritten), hcut]
    refine (readThreshold_name (hskip.skip ['='])).trans ?_
    obtain ⟨target, span, field, threshold⟩ := d
    obtain ⟨rfl, rfl⟩ := hnone
    cases ht
    rw [String.ofList_toList]
  · obtain ⟨inner, hinner, hread⟩ := exists_brackets h hb
    rw [hinner, List.cons_append] at hwritten hskip
    rw [read_of_target hname (.inr rfl) (htrim.trans hwritten), hcut]
    have h := hread _ _ (hskip.skip ['['])
    rw [ht] at h
    rw [Outcome.ok_bind, if_neg (by decide), String.ofList_toList]
    exact h

/-- A directive is read as it was written. -/
theorem read_written (h : d.IsWritable) : read d.written = .ok d := by
  cases ht : d.target with
  | some name => exact read_written_of_target h ht
  | none =>
      by_cases hb : brackets d.span d.field = []
      · obtain ⟨target, span, field, threshold⟩ := d
        cases ht
        cases span <;> cases field <;> simp [brackets] at hb
        cases threshold with
        | off => rfl
        | upTo level => cases level <;> rfl
      · exact read_written_of_brackets h ht hb

example : read "app[job\x7bid=1\x7d]=OFF".toList =
    .ok { target := some "app", span := some "job", field := some "id=1", threshold := .off } := by
  decide +kernel

theorem written_ne_nil (d : Directive) : d.written ≠ [] := by
  unfold written
  split
  · exact d.threshold.name_ne_nil
  · simp

/-- Directives between commas stay apart. -/
theorem comma_notMem_written (h : d.IsWritable) : ',' ∉ d.written := by
  have hname := d.threshold.comma_notMem_name
  have hspan : ',' ∉ (d.span.getD "").toList := fun hc => h.notMem_span _ hc (by simp)
  have hbrackets : ',' ∉ brackets d.span d.field := by
    cases hf : d.field with
    | none => cases hs : d.span with
        | none => simp [brackets]
        | some name =>
            rw [hs] at hspan
            simpa [brackets] using hspan
    | some field =>
        have hfield : ',' ∉ field.toList := fun hc => (h.field field hf).2.2 _ hc (by simp)
        cases hs : d.span with
        | none => simp [brackets, hfield]
        | some name =>
            rw [hs] at hspan
            simpa [brackets, hfield] using hspan
  have htarget : ',' ∉ (d.target.getD "").toList := by
    cases ht : d.target with
    | none => simp
    | some name => exact (h.target name ht).2
  unfold written
  split
  · exact hname
  · rename_i hb
    simp [hname, hbrackets, htarget]

end Directive

end Calculator.Log
