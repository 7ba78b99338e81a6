import Calculator.Pattern.Basic
import Mathlib.Data.List.Infix

/-!
# Reading patterns

What a reader leaves is the end of its text, and shorter where it has read something. So the fuel of the readers that go
into sets and groups is never what stops them.
-/

namespace Calculator.Pattern

variable {mode : Mode} {c : Char} {text rest : List Char}

/-! ## Rests -/

/-- The rest is an end of the text, and something has been read. -/
def IsBehind (rest text : List Char) : Prop := rest <:+ text ∧ rest.length < text.length

theorem IsBehind.cons (c : Char) (h : rest <:+ text) : IsBehind rest (c :: text) :=
  ⟨h.trans (List.suffix_cons c text), Nat.lt_succ_of_le h.length_le⟩

theorem IsBehind.of_suffix {whole : List Char} (h : IsBehind rest text) (hw : text <:+ whole) : IsBehind rest whole :=
  ⟨h.1.trans hw, Nat.lt_of_lt_of_le h.2 hw.length_le⟩

theorem IsBehind.suffix {last : List Char} (h : IsBehind rest text) (hl : last <:+ rest) : IsBehind last text :=
  ⟨hl.trans h.1, Nat.lt_of_le_of_lt hl.length_le h.2⟩

theorem Mode.skip_go_suffix (comment : Bool) (text : List Char) : Mode.skip.go comment text <:+ text := by
  induction text generalizing comment with
  | nil => exact List.suffix_refl []
  | cons c text ih =>
      have hrest (comment : Bool) := (ih comment).trans (List.suffix_cons c text)
      unfold Mode.skip.go
      split
      · exact hrest _
      split
      · exact hrest _
      split
      · exact hrest _
      · exact List.suffix_refl _

theorem Mode.skip_suffix (mode : Mode) (text : List Char) : mode.skip text <:+ text := by
  unfold Mode.skip
  split
  · exact Mode.skip_go_suffix false text
  · exact List.suffix_refl text

theorem Mode.suffix_of_skip (h : mode.skip text = rest) : rest <:+ text := h ▸ mode.skip_suffix text

theorem Mode.isBehind_of_skip (h : mode.skip text = c :: rest) : IsBehind rest text :=
  (IsBehind.cons c (List.suffix_refl rest)).of_suffix (mode.suffix_of_skip h)

/-! ## Atoms -/

namespace Atom

variable {atom : Atom} {inSet : Bool} {n value digits : Nat}

theorem readHex?_suffix (h : readHex? mode digits value text = some (n, rest)) : rest <:+ text := by
  induction digits generalizing value text with
  | zero =>
      cases h
      exact List.suffix_refl _
  | succ digits ih =>
      cases text with
      | nil => cases h
      | cons c text =>
          obtain ⟨digit, _, h⟩ := Option.bind_eq_some_iff.mp h
          exact ((ih h).trans (mode.skip_suffix text)).trans (List.suffix_cons c text)

theorem readNumbered?_suffix (h : readNumbered? mode digits text = some (atom, rest)) : rest <:+ text := by
  obtain ⟨⟨n, last⟩, hhex, h⟩ := Option.bind_eq_some_iff.mp h
  dsimp only at h
  split at h
  · cases h
    exact (readHex?_suffix hhex).trans (mode.skip_suffix text)
  · cases h

theorem readEscape?_suffix (h : readEscape? mode text = some (atom, rest)) : rest <:+ text := by
  unfold readEscape? at h
  split at h
  · cases h
  · exact (readNumbered?_suffix h).trans (List.suffix_cons _ _)
  · exact (readNumbered?_suffix h).trans (List.suffix_cons _ _)
  · exact (readNumbered?_suffix h).trans (List.suffix_cons _ _)
  rename_i c text _ _ _
  have hcons := List.suffix_cons c text
  split at h
  · cases h
    exact hcons
  split at h
  · cases h
    exact hcons
  split at h
  · split at h
    · cases h
    rename_i name after hname
    have hafter : after <:+ text := (List.suffix_cons name after).trans (hname ▸ mode.skip_suffix text)
    split at h
    · cases h
    · cases h
      exact ((mode.skip_suffix after).trans hafter).trans hcons
  split at h
  · cases h
    exact hcons
  split at h
  · cases h
    exact hcons
  split at h
  · cases h
    exact hcons
  · obtain ⟨control, _, h⟩ := Option.map_eq_some_iff.mp h
    cases h
    exact hcons

theorem read?_isBehind (h : read? mode inSet text = some (atom, rest)) : IsBehind rest text := by
  unfold read? at h
  split at h
  · cases h
  · exact .cons _ (readEscape?_suffix h)
  rename_i c text _
  have hcons : IsBehind text (c :: text) := .cons c (List.suffix_refl text)
  split at h
  · cases h
    exact hcons
  split at h
  · cases h
    exact hcons
  split at h
  · cases h
    exact hcons
  · cases h
    exact hcons

theorem read?_of_ne (text : List Char) (hc : c ≠ '\\') :
    ∃ atom, read? {} false (c :: text) = some (atom, text) ∧ atom.isAllowed {} := by
  unfold read?
  split
  · contradiction
  · rename_i heq
    cases heq
    contradiction
  · rename_i heq
    cases heq
    rw [if_neg (by decide)]
    split
    · exact ⟨_, rfl, rfl⟩
    split
    · exact ⟨_, rfl, rfl⟩
    · exact ⟨_, rfl, rfl⟩

end Atom

/-! ## Sets -/

namespace Bracket

variable {negated : Bool} {count depth fuel bound : Nat} {joined : Option Nat} {items : Nest} {part : Part}

theorem readName?_suffix {b : Bool} (h : readName? b text = some (negated, rest)) : rest <:+ text := by
  unfold readName? at h
  dsimp only at h
  split at h
  · rename_i after hspan
    rw [List.span_eq_takeWhile_dropWhile] at hspan
    have hdrop : ':' :: ']' :: after <:+ text := hspan ▸ List.dropWhile_suffix _
    split at h
    · cases h
      exact (List.suffix_append [':', ']'] rest).trans hdrop
    · cases h
  · cases h

theorem readNamed?_suffix (h : readNamed? text = some (negated, rest)) : rest <:+ text := by
  unfold readNamed? at h
  split at h
  · exact (readName?_suffix h).trans (List.suffix_append [':', '^'] _)
  · exact (readName?_suffix h).trans (List.suffix_cons ':' _)
  · cases h

theorem readItem?_isBehind (h : readItem? mode text = some rest) : IsBehind rest text := by
  obtain ⟨⟨first, after⟩, hfirst, h⟩ := Option.bind_eq_some_iff.mp h
  have hbehind := Atom.read?_isBehind hfirst
  have hsingle (h : (if first.isAllowedInSet mode then some (mode.skip after) else none) = some rest) :
      IsBehind rest text := by
    split at h
    · cases h
      exact hbehind.suffix (mode.skip_suffix after)
    · cases h
  dsimp only at h
  split at h
  · cases h
  · rename_i range hrange
    split at h
    · exact hsingle h
    · obtain ⟨⟨last, behind⟩, hlast, h⟩ := Option.bind_eq_some_iff.mp h
      have hsuffix : behind <:+ after :=
        ((Atom.read?_isBehind hlast).1.trans (mode.skip_suffix range)).trans (mode.isBehind_of_skip hrange).1
      dsimp only at h
      split at h
      · split at h
        · cases h
          exact hbehind.suffix hsuffix
        · cases h
      · cases h
  · exact hsingle h

theorem readSign_suffix (mode : Mode) (text : List Char) : (readSign mode text).2 <:+ text := by
  unfold readSign
  split
  · rename_i rest hsign
    exact (mode.skip_suffix rest).trans (mode.isBehind_of_skip hsign).1
  · exact mode.skip_suffix text

theorem readHyphens_suffix (mode : Mode) (fuel count : Nat) (text : List Char) :
    (readHyphens mode fuel count text).2 <:+ text := by
  fun_induction readHyphens mode fuel count text with
  | case1 fuel count rest ih => exact (ih.trans (mode.skip_suffix rest)).trans (List.suffix_cons '-' rest)
  | case2 fuel count text => exact List.suffix_refl text

theorem readMarks_suffix (mode : Mode) (text : List Char) : (readMarks mode text).2 <:+ text := by
  have hhyphens := readHyphens_suffix mode text.length 0 text
  unfold readMarks
  split
  · rename_i rest hmarks
    rw [hmarks] at hhyphens
    exact ((mode.skip_suffix rest).trans (List.suffix_cons _ _)).trans hhyphens
  · exact hhyphens

theorem readStart?_suffix (h : readStart? mode text = some (count, rest)) : rest <:+ text := by
  have hmarks := (readMarks_suffix mode (readSign mode text).2).trans (readSign_suffix mode text)
  unfold readStart? at h
  dsimp only at h
  split at h
  · cases h
  · cases h
    exact hmarks

theorem readPart?_isBehind (h : readPart? mode text = some part) : IsBehind part.rest text := by
  unfold readPart? at h
  split at h
  · cases h
  · rename_i hskip
    cases h
    exact mode.isBehind_of_skip hskip
  · rename_i hskip
    cases h
    exact (mode.isBehind_of_skip hskip).suffix (List.suffix_cons _ _)
  · rename_i hskip
    cases h
    exact (mode.isBehind_of_skip hskip).suffix (List.suffix_cons _ _)
  · rename_i hskip
    cases h
    exact (mode.isBehind_of_skip hskip).suffix (List.suffix_cons _ _)
  · rename_i hskip
    have hbehind := mode.isBehind_of_skip hskip
    split at h
    · rename_i hnamed
      split at h
      · cases h
        exact hbehind.suffix (readNamed?_suffix hnamed)
      · cases h
    · obtain ⟨⟨count, rest⟩, hstart, h⟩ := Option.map_eq_some_iff.mp h
      cases h
      exact hbehind.suffix (readStart?_suffix hstart)
  · obtain ⟨rest, hitem, h⟩ := Option.map_eq_some_iff.mp h
    cases h
    exact (readItem?_isBehind hitem).of_suffix (mode.skip_suffix text)

theorem readSet?_isBehind (h : readSet? mode fuel joined items text = some (depth, rest)) : IsBehind rest text := by
  induction fuel generalizing joined items text depth rest with
  | zero => cases h
  | succ fuel ih =>
      obtain ⟨part, hpart, h⟩ := Option.bind_eq_some_iff.mp h
      have hbehind := readPart?_isBehind hpart
      cases part with
      | close last =>
          cases h
          exact hbehind
      | join last => exact hbehind.suffix (ih h).1
      | item last => exact hbehind.suffix (ih h).1
      | set count last =>
          obtain ⟨⟨inner, after⟩, hset, h⟩ := Option.bind_eq_some_iff.mp h
          exact (hbehind.suffix (ih hset).1).suffix (ih h).1

theorem readSet?_nil : readSet? mode fuel joined items [] = none := by
  cases fuel with
  | zero => rfl
  | succ fuel =>
      have hnone : readPart? mode [] = none :=
        Option.eq_none_iff_forall_ne_some.mpr fun part hpart => Nat.not_lt_zero _ (readPart?_isBehind hpart).2
      rw [readSet?, hnone]
      rfl

/-- Any fuel that is no less than the length of the text gives the same. -/
theorem readSet?_eq (hf : text.length ≤ fuel) (hb : text.length ≤ bound) :
    readSet? mode fuel joined items text = readSet? mode bound joined items text := by
  induction fuel generalizing bound joined items text with
  | zero =>
      obtain rfl := List.eq_nil_of_length_eq_zero (Nat.le_zero.mp hf)
      rw [readSet?_nil, readSet?_nil]
  | succ fuel ih => cases bound with
      | zero =>
          obtain rfl := List.eq_nil_of_length_eq_zero (Nat.le_zero.mp hb)
          rw [readSet?_nil, readSet?_nil]
      | succ bound =>
          rw [readSet?, readSet?]
          refine Option.bind_congr fun part hpart => ?_
          have hlt := (readPart?_isBehind hpart).2
          -- Whatever the part, the reader goes on with no more than the rest behind it.
          have hrest (rest : List Char) (h : rest.length ≤ part.rest.length) (joined : Option Nat) (items : Nest) :
              readSet? mode fuel joined items rest = readSet? mode bound joined items rest := ih (by omega) (by omega)
          cases part with
          | close rest => rfl
          | join rest => exact hrest rest (Nat.le_refl _) _ _
          | item rest => exact hrest rest (Nat.le_refl _) _ _
          | set count rest =>
              dsimp only
              rw [hrest rest (Nat.le_refl _)]
              exact Option.bind_congr fun inner hinner => hrest _ (readSet?_isBehind hinner).1.length_le _ _

theorem read?_suffix (h : read? mode text = some (depth, rest)) : rest <:+ text := by
  obtain ⟨⟨count, start⟩, hstart, h⟩ := Option.bind_eq_some_iff.mp h
  exact (readSet?_isBehind h).1.trans (readStart?_suffix hstart)

/-- The fuel given to a set never stops it. -/
theorem read?_eq (hf : text.length ≤ fuel) :
    read? mode text = (readStart? mode text).bind fun (count, rest) => readSet? mode fuel none ⟨count, 0⟩ rest :=
  Option.bind_congr fun start hstart => by
    have hle := (readStart?_suffix hstart).length_le
    exact readSet?_eq hle (Nat.le_trans hle hf)

end Bracket

/-! ## Groups -/

variable {opening : Opening} {inner : Bool} {part : Part} {fuel bound depth : Nat} {p : Progress}
  {names : List (List Char)}

theorem readName?_suffix (h : readName? text = some (opening, rest)) : rest <:+ text := by
  unfold readName? at h
  rw [List.span_eq_takeWhile_dropWhile] at h
  dsimp only at h
  split at h
  · rename_i last hdrop
    split at h
    · cases h
      exact (List.suffix_cons _ rest).trans (hdrop ▸ List.dropWhile_suffix _)
    · cases h
  · cases h

theorem readOpening?_suffix (h : readOpening? mode text = some (opening, rest)) : rest <:+ text := by
  unfold readOpening? at h
  split at h
  · rename_i hskip
    exact ((readName?_suffix h).trans (List.suffix_append ['?', 'P', '<'] _)).trans (mode.suffix_of_skip hskip)
  · rename_i hskip
    split at h
    · cases h
    · exact ((readName?_suffix h).trans (List.suffix_append ['?', '<'] _)).trans (mode.suffix_of_skip hskip)
  · rename_i letters _ _ hskip
    have hletters := (List.suffix_cons '?' letters).trans (mode.suffix_of_skip hskip)
    rw [List.span_eq_takeWhile_dropWhile] at h
    dsimp only at h
    split at h
    · split at h
      · rename_i hdrop
        cases h
        exact ((List.suffix_cons ':' rest).trans (hdrop ▸ List.dropWhile_suffix _)).trans hletters
      · rename_i hdrop
        split at h
        · cases h
        · cases h
          exact ((List.suffix_cons ')' rest).trans (hdrop ▸ List.dropWhile_suffix _)).trans hletters
      · cases h
    · cases h
  · cases h
    exact mode.skip_suffix text

theorem readPart?_isBehind (h : readPart? inner mode text = some part) (hp : part ≠ .close []) :
    IsBehind part.rest text := by
  unfold readPart? at h
  split at h
  · split at h
    · cases h
    · cases h
      exact absurd rfl hp
  · rename_i hskip
    split at h
    · cases h
      exact mode.isBehind_of_skip hskip
    · cases h
  · rename_i hskip
    cases h
    exact mode.isBehind_of_skip hskip
  · rename_i hskip
    obtain ⟨⟨opening, rest⟩, hopening, h⟩ := Option.map_eq_some_iff.mp h
    have hbehind := (mode.isBehind_of_skip hskip).suffix (readOpening?_suffix hopening)
    cases opening <;> cases h <;> exact hbehind
  · rename_i hskip
    obtain ⟨⟨depth, rest⟩, hset, h⟩ := Option.map_eq_some_iff.mp h
    cases h
    exact (mode.isBehind_of_skip hskip).suffix (Bracket.read?_suffix hset)
  · cases h
  · rename_i c rest _ _ _ _ _ hskip
    split at h
    · cases h
      refine (mode.isBehind_of_skip hskip).suffix ?_
      dsimp only [Part.rest]
      split
      · exact List.drop_suffix 1 rest
      · exact List.suffix_refl rest
    · obtain ⟨⟨atom, last⟩, hatom, h⟩ := Option.bind_eq_some_iff.mp h
      dsimp only at h
      split at h
      · cases h
        exact (Atom.read?_isBehind hatom).of_suffix (mode.suffix_of_skip hskip)
      · cases h

theorem readPart?_suffix (h : readPart? inner mode text = some part) : part.rest <:+ text := by
  by_cases hp : part = .close []
  · rw [hp]
    exact List.nil_suffix
  · exact (readPart?_isBehind h hp).1

theorem readGroup?_suffix (h : readGroup? inner fuel mode p text = some (depth, names, rest)) : rest <:+ text := by
  induction fuel generalizing inner mode p text depth names rest with
  | zero => cases h
  | succ fuel ih =>
      obtain ⟨part, hpart, h⟩ := Option.bind_eq_some_iff.mp h
      have hsuffix := readPart?_suffix hpart
      cases part with
      | close last =>
          cases h
          exact hsuffix
      | bar last => exact (ih h).trans hsuffix
      | change changed last => exact (ih h).trans hsuffix
      | group name within last =>
          dsimp only at h
          split at h
          · cases h
          · obtain ⟨⟨_, _, after⟩, hgroup, h⟩ := Option.bind_eq_some_iff.mp h
            exact ((ih h).trans (ih hgroup)).trans hsuffix
      | single depth last => exact (ih h).trans hsuffix
      | repetition last =>
          obtain ⟨depth, _, h⟩ := Option.bind_eq_some_iff.mp h
          exact (ih h).trans hsuffix

/-- Any fuel that is more than the length of the text gives the same. -/
theorem readGroup?_eq (hf : text.length < fuel) (hb : text.length < bound) :
    readGroup? inner fuel mode p text = readGroup? inner bound mode p text := by
  induction fuel generalizing bound inner mode p text with
  | zero => cases hf
  | succ fuel ih => cases bound with
      | zero => cases hb
      | succ bound =>
          rw [readGroup?, readGroup?]
          refine Option.bind_congr fun part hpart => ?_
          -- Only the end of the whole pattern reads nothing, and there the reader does not go on.
          have hrest (hp : part ≠ .close []) (rest : List Char) (h : rest.length ≤ part.rest.length) (inner : Bool)
              (mode : Mode) (p : Progress) : readGroup? inner fuel mode p rest = readGroup? inner bound mode p rest := by
            have hlt := (readPart?_isBehind hpart hp).2
            exact ih (by omega) (by omega)
          cases part with
          | close rest => rfl
          | bar rest => exact hrest (by simp) rest (Nat.le_refl _) _ _ _
          | change changed rest => exact hrest (by simp) rest (Nat.le_refl _) _ _ _
          | group name within rest =>
              dsimp only
              split
              · rfl
              · rw [hrest (by simp) rest (Nat.le_refl _)]
                exact Option.bind_congr fun group hgroup =>
                  hrest (by simp) _ (readGroup?_suffix hgroup).length_le _ _ _
          | single depth rest => exact hrest (by simp) rest (Nat.le_refl _) _ _ _
          | repetition rest => exact Option.bind_congr fun depth _ => hrest (by simp) rest (Nat.le_refl _) _ _ _

/-- The fuel given to a pattern never stops it. -/
theorem isValid_eq (h : text.length < fuel) :
    isValid text = (readGroup? false fuel {} {} text).any fun (depth, _, _) => depth ≤ maxDepth := by
  rw [isValid, readGroup?_eq (Nat.lt_succ_self _) h]

/-! ## Plain texts -/

/-- The characters that can make a text no pattern. -/
def specials : List Char := ['\\', '(', ')', '[', '\x7b', '?', '*', '+']

theorem readPart?_of_notMem_specials (hc : c ∉ specials) (hbar : c ≠ '|') :
    readPart? inner {} (c :: text) = some (.single 0 text) := by
  simp only [specials, List.mem_cons, List.not_mem_nil, or_false, not_or] at hc
  obtain ⟨atom, hatom, hallowed⟩ := Atom.read?_of_ne text hc.1
  have hskip : Mode.skip {} (c :: text) = c :: text := rfl
  unfold readPart?
  rw [hskip]
  split <;> simp_all

theorem Nest.total_le (nest : Nest) : nest.total ≤ nest.depth + 1 := by
  unfold Nest.total
  split
  · exact Nat.le_succ _
  · exact Nat.le_refl _

/-- A branch of single characters is a level, and so are several branches. -/
theorem readGroup?_of_notMem_specials (h : ∀ c ∈ text, c ∉ specials) (hf : text.length < fuel)
    (hbranch : p.branch.depth = 0) (hbranches : p.branches.depth ≤ 1) :
    ∃ depth ≤ 2, readGroup? false fuel {} p text = some (depth, p.names, []) := by
  induction text generalizing fuel p with
  | nil => cases fuel with
      | zero => cases hf
      | succ fuel =>
          have htotal := p.branch.total_le
          have hnext : max p.branches.depth p.branch.total ≤ 1 := by omega
          exact ⟨p.depth, (Nest.total_le _).trans (Nat.succ_le_succ hnext), rfl⟩
  | cons c text ih => cases fuel with
      | zero => cases hf
      | succ fuel =>
          obtain ⟨hc, htext⟩ := List.forall_mem_cons.mp h
          have hlength : text.length < fuel := Nat.lt_of_succ_lt_succ hf
          by_cases hbar : c = '|'
          · subst hbar
            have htotal := p.branch.total_le
            have hnext : max p.branches.depth p.branch.total ≤ 1 := by omega
            exact ih (p := p.nextBranch) htext hlength rfl hnext
          · rw [readGroup?, readPart?_of_notMem_specials hc hbar]
            refine ih (p := p.add 0) htext hlength ?_ hbranches
            simp [Progress.add, Nest.add, hbranch]

theorem isValid_of_notMem_specials (h : ∀ c ∈ text, c ∉ specials) : isValid text := by
  have hfuel := Nat.lt_succ_self text.length
  obtain ⟨depth, hle, hread⟩ := readGroup?_of_notMem_specials (p := {}) h hfuel rfl (Nat.zero_le 1)
  rw [isValid, hread]
  exact decide_eq_true (Nat.le_trans hle (by decide))

end Calculator.Pattern
