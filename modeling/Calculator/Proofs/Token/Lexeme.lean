import Calculator.Proofs.Chain.Alternation
import Calculator.Proofs.Token.Literal

/-!
# Lexemes

A text cut into its operators and the longest runs between them. Scanning a text of legal characters is reading
its lexemes one by one, so the tokens, and the fault if there is one, are those of the lexemes in order.
-/

namespace Calculator

inductive Lexeme where
  | run (text : List Char)
  | operator (op : Operator)
  deriving DecidableEq

/-- Digits, the point and the operators. -/
def isLegal (c : Char) : Bool := c.isDigit || c ∈ ['.', '+', '-', '*', '/']

/-- The first illegal character, and how many characters stand before it. -/
def firstIllegal? (text : List Char) : Option (Char × Nat) := text.zipIdx.find? (!isLegal ·.1)

namespace Lexeme

/-- Puts a character in front, where it joins a run that stands there. -/
def extend (c : Char) : List Lexeme → List Lexeme
  | .run text :: rest => .run (c :: text) :: rest
  | lexemes => .run [c] :: lexemes

def text : Lexeme → List Char
  | run text => text
  | operator op => [op.symbol]

def run? : Lexeme → Option (List Char)
  | run text => some text
  | operator _ => none

def isRun (lexeme : Lexeme) : Bool := lexeme.run?.isSome

@[simp] theorem isRun_run (text : List Char) : (run text).isRun = true := rfl

@[simp] theorem isRun_operator (op : Operator) : (operator op).isRun = false := rfl

@[simp] theorem filterMap_run?_run (text : List Char) (ls : List Lexeme) :
    (run text :: ls).filterMap run? = text :: ls.filterMap run? := rfl

@[simp] theorem filterMap_run?_operator (op : Operator) (ls : List Lexeme) :
    (operator op :: ls).filterMap run? = ls.filterMap run? := rfl

/-- What a lexeme stands for, if it is an operator or a readable literal. -/
def token : Lexeme → Token
  | run text => .number (Literal.value text)
  | operator op => .operator op

/-- The token of a lexeme, if it is not a bad literal. -/
def read : Lexeme → Except EvalError Token
  | run text =>
    match Literal.fault? text with
    | some e => .error e
    | none => .ok (.number (Literal.value text))
  | operator op => .ok (.operator op)

end Lexeme

def Lexeme.Separate (a b : Lexeme) : Prop := ¬(a.isRun ∧ b.isRun)

/-- A text of legal characters cut into operators and runs of digits and points. No two runs touch, so each is as
long as it can be. -/
structure Lexeme.IsCut (text : List Char) (ls : List Lexeme) : Prop where
  joined : ls.flatMap Lexeme.text = text
  runs : ∀ run, .run run ∈ ls → run ≠ [] ∧ ∀ c ∈ run, Token.isLiteralChar c
  longest : ls.IsChain Lexeme.Separate

def lexemes : List Char → List Lexeme
  | [] => []
  | c :: rest =>
    match Operator.ofSymbol? c with
    | some op => .operator op :: lexemes rest
    | none => Lexeme.extend c (lexemes rest)

def runs (text : List Char) : List (List Char) := (lexemes text).filterMap Lexeme.run?

/-! ## Characters -/

theorem Operator.ofSymbol?_isSome_iff {c : Char} :
    (ofSymbol? c).isSome ↔ c ∈ ['+', '-', '*', '/'] := by
  constructor
  · intro h
    obtain ⟨op, hop⟩ := Option.isSome_iff_exists.mp h
    rw [← symbol_of_ofSymbol? hop]
    cases op <;> simp [symbol]
  · intro h
    simp only [List.mem_cons, List.not_mem_nil, or_false] at h
    rcases h with rfl | rfl | rfl | rfl <;> rfl

theorem Operator.isLiteralChar_symbol (op : Operator) : Token.isLiteralChar op.symbol = false := by
  cases op <;> rfl

theorem Operator.ofSymbol?_of_isLiteralChar {c : Char} (h : Token.isLiteralChar c) : ofSymbol? c = none := by
  cases ho : ofSymbol? c with
  | none => rfl
  | some op =>
      rw [← symbol_of_ofSymbol? ho, isLiteralChar_symbol] at h
      cases h

theorem isLegal_iff {c : Char} : isLegal c ↔ Token.isLiteralChar c ∨ (Operator.ofSymbol? c).isSome := by
  rw [Operator.ofSymbol?_isSome_iff]
  simp [isLegal, Token.isLiteralChar, or_assoc]

theorem isLegal_of_isLiteralChar {c : Char} (h : Token.isLiteralChar c) : isLegal c := isLegal_iff.mpr (.inl h)

theorem isLegal_symbol (op : Operator) : isLegal op.symbol := by
  rw [isLegal_iff, Operator.ofSymbol?_symbol]
  exact .inr rfl

theorem firstIllegal?_eq_none {text : List Char} : firstIllegal? text = none ↔ ∀ c ∈ text, isLegal c := by
  simp only [firstIllegal?, List.find?_eq_none, Bool.not_eq_eq_eq_not, Bool.not_true, Bool.not_eq_false]
  constructor
  · intro h c hc
    obtain ⟨i, hi⟩ := List.getElem?_of_mem hc
    exact h (c, i) (List.mem_zipIdx_iff_getElem?.mpr hi)
  · intro h x hx
    exact h x.1 (List.fst_mem_of_mem_zipIdx hx)

theorem firstIllegal?_append (text rest : List Char) :
    firstIllegal? (text ++ rest) =
      (firstIllegal? text).or ((firstIllegal? rest).map fun x => (x.1, text.length + x.2)) := by
  have hshift : (rest.zipIdx text.length).find? (!isLegal ·.1) =
      (firstIllegal? rest).map fun x => (x.1, text.length + x.2) := by
    rw [List.zipIdx_eq_map_add, List.find?_map]
    rfl
  rw [firstIllegal?, List.zipIdx_append, List.find?_append, Nat.zero_add, hshift]
  rfl

theorem firstIllegal?_cons_of_illegal {c : Char} (h : ¬isLegal c) (rest : List Char) :
    firstIllegal? (c :: rest) = some (c, 0) := by
  rw [firstIllegal?, List.zipIdx_cons, List.find?_cons_of_pos (by simpa using h)]

/-! ## The cut -/

theorem lexemes_symbol_cons (op : Operator) (rest : List Char) :
    lexemes (op.symbol :: rest) = .operator op :: lexemes rest := by
  rw [lexemes, Operator.ofSymbol?_symbol]

theorem lexemes_literal_cons {c : Char} (h : Token.isLiteralChar c) (rest : List Char) :
    lexemes (c :: rest) = Lexeme.extend c (lexemes rest) := by
  rw [lexemes, Operator.ofSymbol?_of_isLiteralChar h]

theorem lexemes_run_append {text : List Char} (rest : List Char) (hne : text ≠ [])
    (h : ∀ c ∈ text, Token.isLiteralChar c) (hrest : (lexemes rest).head?.all (!·.isRun)) :
    lexemes (text ++ rest) = .run text :: lexemes rest := by
  induction text with
  | nil => exact absurd rfl hne
  | cons c cs ih =>
      rw [List.cons_append, lexemes_literal_cons (h c (by simp))]
      cases cs with
      | nil =>
          rw [List.nil_append]
          cases hl : lexemes rest with
          | nil => rfl
          | cons lexeme more => cases lexeme with
              | run text => rw [hl] at hrest; cases hrest
              | operator op => rfl
      | cons d ds =>
          rw [ih (by simp) (fun x hx => h x (by simp [hx]))]
          rfl

theorem lexemes_run {text : List Char} (hne : text ≠ []) (h : ∀ c ∈ text, Token.isLiteralChar c) :
    lexemes text = [.run text] := by
  have hl := lexemes_run_append [] hne h rfl
  rwa [List.append_nil] at hl

theorem extend_append_operator (c : Char) (ls : List Lexeme) (op : Operator) (rest : List Lexeme) :
    Lexeme.extend c (ls ++ .operator op :: rest) = Lexeme.extend c ls ++ .operator op :: rest := by
  cases ls with
  | nil => rfl
  | cons lexeme more => cases lexeme <;> rfl

/-- No lexeme reaches over an operator. -/
theorem lexemes_append_symbol (text : List Char) (op : Operator) (rest : List Char) :
    lexemes (text ++ op.symbol :: rest) = lexemes text ++ .operator op :: lexemes rest := by
  induction text with
  | nil => exact lexemes_symbol_cons op rest
  | cons c text ih =>
      rw [List.cons_append, lexemes, lexemes, ih]
      cases Operator.ofSymbol? c with
      | none => exact extend_append_operator c _ op _
      | some op' => rfl

theorem flatMap_extend (c : Char) (ls : List Lexeme) :
    (Lexeme.extend c ls).flatMap Lexeme.text = c :: ls.flatMap Lexeme.text := by
  cases ls with
  | nil => rfl
  | cons lexeme rest => cases lexeme <;> rfl

theorem flatMap_lexemes (text : List Char) : (lexemes text).flatMap Lexeme.text = text := by
  induction text with
  | nil => rfl
  | cons c rest ih =>
      cases ho : Operator.ofSymbol? c with
      | none => simp only [lexemes, ho, flatMap_extend, ih]
      | some op =>
          simp only [lexemes, ho, List.flatMap_cons, ih, Lexeme.text, Operator.symbol_of_ofSymbol? ho,
            List.singleton_append]

theorem isChain_extend {c : Char} {ls : List Lexeme} (h : ls.IsChain Lexeme.Separate) :
    (Lexeme.extend c ls).IsChain Lexeme.Separate := by
  cases ls with
  | nil => exact .singleton _
  | cons lexeme rest => cases lexeme with
      | run text => cases h with
          | singleton => exact .singleton _
          | cons_cons hab h => exact .cons_cons hab h
      | operator op => exact .cons_cons (by simp [Lexeme.Separate]) h

theorem isChain_lexemes (text : List Char) : (lexemes text).IsChain Lexeme.Separate := by
  induction text with
  | nil => exact .nil
  | cons c rest ih =>
      rw [lexemes]
      split
      · exact ih.cons (by simp [Lexeme.Separate])
      · exact isChain_extend ih

theorem mem_of_run_mem_extend {c : Char} {ls : List Lexeme} {text : List Char}
    (h : .run text ∈ Lexeme.extend c ls) :
    text = [c] ∨ .run text ∈ ls ∨ ∃ more, text = c :: more ∧ .run more ∈ ls := by
  cases ls with
  | nil => simp_all [Lexeme.extend]
  | cons lexeme rest => cases lexeme with
      | run more =>
          simp only [Lexeme.extend, List.mem_cons, Lexeme.run.injEq] at h
          rcases h with rfl | h
          · exact .inr (.inr ⟨more, rfl, by simp⟩)
          · exact .inr (.inl (by simp [h]))
      | operator op =>
          simp only [Lexeme.extend, List.mem_cons, Lexeme.run.injEq] at h
          rcases h with rfl | h
          · exact .inl rfl
          · exact .inr (.inl (by simpa using h))

theorem run_mem_lexemes {text run : List Char} (hl : ∀ c ∈ text, isLegal c) (h : .run run ∈ lexemes text) :
    run ≠ [] ∧ ∀ c ∈ run, Token.isLiteralChar c := by
  induction text generalizing run with
  | nil => cases h
  | cons c rest ih =>
      have hrest : ∀ c ∈ rest, isLegal c := fun x hx => hl x (by simp [hx])
      cases ho : Operator.ofSymbol? c with
      | some op =>
          simp only [lexemes, ho, List.mem_cons, reduceCtorEq, false_or] at h
          exact ih hrest h
      | none =>
          have hc : Token.isLiteralChar c := by simpa [ho] using isLegal_iff.mp (hl c (by simp))
          simp only [lexemes, ho] at h
          rcases mem_of_run_mem_extend h with rfl | hm | ⟨more, rfl, hm⟩
          · exact ⟨by simp, by simpa using hc⟩
          · exact ih hrest hm
          · exact ⟨by simp, by simpa [hc] using (ih hrest hm).2⟩

theorem lexemes_isCut {text : List Char} (hl : ∀ c ∈ text, isLegal c) : Lexeme.IsCut text (lexemes text) :=
  ⟨flatMap_lexemes text, fun _ => run_mem_lexemes hl, isChain_lexemes text⟩

/-- There is one cut, so a text is cut as it was joined. -/
theorem Lexeme.IsCut.lexemes_eq {text : List Char} {ls : List Lexeme} (h : IsCut text ls) :
    lexemes text = ls := by
  obtain ⟨rfl, hr, hs⟩ := h
  induction ls with
  | nil => rfl
  | cons lexeme rest ih =>
      have hrest := ih (fun run hm => hr run (by simp [hm])) hs.tail
      cases lexeme with
      | operator op =>
          rw [List.flatMap_cons, Lexeme.text, List.singleton_append, lexemes_symbol_cons, hrest]
      | run run =>
          obtain ⟨hne, hc⟩ := hr run (by simp)
          rw [List.flatMap_cons, Lexeme.text, lexemes_run_append _ hne hc, hrest]
          rw [hrest]
          cases hs with
          | singleton => rfl
          | cons_cons hab _ => simpa [Lexeme.Separate] using hab

/-! ## Reading -/

theorem Lexeme.read_run {text : List Char} {token : Token} (h : read (.run text) = .ok token) :
    Literal.fault? text = none ∧ token = .number (Literal.value text) := by
  rw [read] at h
  split at h
  · cases h
  · cases h
    exact ⟨by assumption, rfl⟩

theorem Lexeme.read_of_readable {lexeme : Lexeme} (h : ∀ run, lexeme = .run run → Literal.IsReadable run) :
    lexeme.read = .ok lexeme.token := by
  cases lexeme with
  | operator op => rfl
  | run text => rw [read, Literal.fault?_eq_none.mpr (h text rfl), token]

theorem mapM_read_of_readable {ls : List Lexeme} (h : ∀ run, .run run ∈ ls → Literal.IsReadable run) :
    ls.mapM Lexeme.read = .ok (ls.map Lexeme.token) := by
  induction ls with
  | nil => rfl
  | cons lexeme rest ih =>
      have hl : lexeme.read = .ok lexeme.token := Lexeme.read_of_readable fun run hr => h run (by simp [hr])
      have hrest := ih fun run hr => h run (by simp [hr])
      rw [List.mapM_cons, hl, hrest]
      rfl

theorem eq_nil_of_mapM_read {ls : List Lexeme} (h : ls.mapM Lexeme.read = .ok []) : ls = [] := by
  cases ls with
  | nil => rfl
  | cons lexeme ls =>
      obtain ⟨_, _, _, _, hn⟩ := Outcome.mapM_eq_ok_cons.mp h
      cases hn

theorem eq_run_cons_of_mapM_read {ls : List Lexeme} {value : Double} {tokens : List Token}
    (h : ls.mapM Lexeme.read = .ok (.number value :: tokens)) :
    ∃ text rest, ls = .run text :: rest ∧ Literal.fault? text = none ∧ value = Literal.value text ∧
      rest.mapM Lexeme.read = .ok tokens := by
  cases ls with
  | nil => cases h
  | cons lexeme rest =>
      obtain ⟨token, more, hr, hm, he⟩ := Outcome.mapM_eq_ok_cons.mp h
      cases he
      cases lexeme with
      | operator op => cases hr
      | run text =>
          obtain ⟨hf, he⟩ := Lexeme.read_run hr
          cases he
          exact ⟨text, rest, rfl, hf, rfl, hm⟩

theorem eq_operator_cons_of_mapM_read {ls : List Lexeme} {op : Operator} {tokens : List Token}
    (h : ls.mapM Lexeme.read = .ok (.operator op :: tokens)) :
    ∃ rest, ls = .operator op :: rest ∧ rest.mapM Lexeme.read = .ok tokens := by
  cases ls with
  | nil => cases h
  | cons lexeme rest =>
      obtain ⟨token, more, hr, hm, he⟩ := Outcome.mapM_eq_ok_cons.mp h
      cases he
      cases lexeme with
      | operator op' => cases hr; exact ⟨rest, rfl, hm⟩
      | run text => obtain ⟨_, he⟩ := Lexeme.read_run hr; cases he

theorem mapM_read_eq_error {ls : List Lexeme} {e : EvalError} :
    ls.mapM Lexeme.read = .error e ↔ (ls.filterMap Lexeme.run?).findSome? Literal.fault? = some e := by
  induction ls with
  | nil => simp
  | cons lexeme rest ih =>
      cases lexeme with
      | operator op =>
          rw [List.mapM_cons, Lexeme.read, Outcome.ok_bind, Outcome.bind_eq_error, ih]
          simp
      | run text => cases hf : Literal.fault? text with
          | some e' => simp [Lexeme.read, hf]
          | none =>
              simp only [List.mapM_cons, Lexeme.read, hf, Outcome.ok_bind, Outcome.bind_eq_error, ih]
              simp [hf]

theorem eq_of_mapM_read_error {ls : List Lexeme} {e : EvalError} (h : ls.mapM Lexeme.read = .error e) :
    e = .outOfRange ∨ ∃ text, e = .malformed (.badLiteral text) := by
  obtain ⟨text, _, hf⟩ := List.exists_of_findSome?_eq_some (mapM_read_eq_error.mp h)
  rcases Literal.eq_of_fault? hf with rfl | rfl
  · exact .inl rfl
  · exact .inr ⟨_, rfl⟩

theorem exists_mapM_read {ls : List Lexeme} (h : (ls.filterMap Lexeme.run?).findSome? Literal.fault? = none) :
    ∃ tokens, ls.mapM Lexeme.read = .ok tokens := by
  cases hm : ls.mapM Lexeme.read with
  | ok tokens => exact ⟨tokens, rfl⟩
  | error e =>
      rw [mapM_read_eq_error, h] at hm
      cases hm

theorem Lexeme.isNumber_of_read {lexeme : Lexeme} {token : Token} (h : lexeme.read = .ok token) :
    token.isNumber = lexeme.isRun := by
  cases lexeme with
  | operator op => cases h; rfl
  | run text =>
      obtain ⟨_, rfl⟩ := Lexeme.read_run h
      rfl

theorem map_isNumber_of_mapM_read {ls : List Lexeme} {tokens : List Token} (h : ls.mapM Lexeme.read = .ok tokens) :
    tokens.map Token.isNumber = ls.map Lexeme.isRun :=
  Outcome.map_eq_of_mapM (fun _ _ => Lexeme.isNumber_of_read) h

end Calculator
