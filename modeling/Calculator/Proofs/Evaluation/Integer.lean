import Calculator.Proofs.Chain.Joined
import Calculator.Proofs.Double.ReadBack
import Calculator.Proofs.Evaluation.Basic
import Calculator.Proofs.Language

/-!
# Integer expressions

Expressions without a point and without a division. Reading them, both passes and the text of the result are exact as
long as no literal and no integer on the way, from left to right, is larger than `2 ^ 53`, up to which a double holds
every integer.
-/

namespace Calculator

open Double (ofInt ofInt_add ofInt_sub ofInt_mul quanta_ofInt isFinite_ofInt_natCast)
open Magnitude (quantaPerOne)

/-- A literal of digits alone. -/
structure Digits where
  text : List Char
  ne_nil : text ≠ []
  isDigit : ∀ c ∈ text, c.isDigit

structure IntegerProduct where
  first : Digits
  rest : List Digits

inductive Sign where
  | plus
  | minus

structure IntegerSum where
  first : IntegerProduct
  rest : List (Sign × IntegerProduct)

def Digits.value (digits : Digits) : Nat := Nat.ofDigitChars 10 digits.text 0

namespace Sign

def operator : Sign → Operator
  | plus => .plus
  | minus => .minus

def apply : Sign → Int → Int → Int
  | plus, left, right => left + right
  | minus, left, right => left - right

end Sign

namespace IntegerProduct

def text (product : IntegerProduct) : List Char :=
  product.first.text ++ product.rest.flatMap fun digits => '*' :: digits.text

def value (product : IntegerProduct) : Nat :=
  product.rest.foldl (fun left digits => left * digits.value) product.first.value

/-- The first factor and the products from left to right, up to the value. -/
def partials (product : IntegerProduct) : List Nat :=
  product.rest.scanl (fun left digits => left * digits.value) product.first.value

structure IsBounded (product : IntegerProduct) : Prop where
  factors : ∀ digits ∈ product.first :: product.rest, digits.value ≤ 2 ^ (53 : Nat)
  partials : ∀ n ∈ product.partials, n ≤ 2 ^ (53 : Nat)

instance : DecidablePred IsBounded := fun product =>
  decidable_of_iff ((∀ digits ∈ product.first :: product.rest, digits.value ≤ 2 ^ (53 : Nat)) ∧
      ∀ n ∈ product.partials, n ≤ 2 ^ (53 : Nat))
    ⟨fun h => ⟨h.1, h.2⟩, fun h => ⟨h.factors, h.partials⟩⟩

def chain (product : IntegerProduct) : Chain :=
  ⟨ofInt product.first.value, product.rest.map fun digits => (.times, ofInt digits.value)⟩

end IntegerProduct

namespace IntegerSum

def text (sum : IntegerSum) : List Char :=
  sum.first.text ++ sum.rest.flatMap fun piece => piece.1.operator.symbol :: piece.2.text

def value (sum : IntegerSum) : Int :=
  sum.rest.foldl (fun left piece => piece.1.apply left piece.2.value) sum.first.value

/-- The first product and the sums from left to right, up to the value. -/
def partials (sum : IntegerSum) : List Int :=
  sum.rest.scanl (fun left piece => piece.1.apply left piece.2.value) sum.first.value

structure IsBounded (sum : IntegerSum) : Prop where
  products : ∀ product ∈ sum.first :: sum.rest.map Prod.snd, product.IsBounded
  partials : ∀ z ∈ sum.partials, z.natAbs ≤ 2 ^ (53 : Nat)

instance : DecidablePred IsBounded := fun sum =>
  decidable_of_iff ((∀ product ∈ sum.first :: sum.rest.map Prod.snd, product.IsBounded) ∧
      ∀ z ∈ sum.partials, z.natAbs ≤ 2 ^ (53 : Nat))
    ⟨fun h => ⟨h.1, h.2⟩, fun h => ⟨h.products, h.partials⟩⟩

def terms (sum : IntegerSum) : SumOfTerms :=
  ⟨sum.first.chain, sum.rest.map fun piece => (piece.1.operator, piece.2.chain)⟩

end IntegerSum

variable {s : String} {sign : Sign} {n k : Nat} {a b : Int}

/-! ## Their texts -/

namespace Digits

theorem value_text (digits : Digits) :
    Literal.isNumber digits.text ∧ Literal.value digits.text = ofInt digits.value := by
  have hliteral : ∀ c ∈ digits.text, Token.isLiteralChar c := fun c hc => by
    simp [Token.isLiteralChar, digits.isDigit c hc]
  have hread := Literal.read?_eq hliteral
  rw [Decimal.read?_of_digits digits.ne_nil digits.isDigit] at hread
  split at hread
  · rename_i hn
    refine ⟨hn, ?_⟩
    rw [Literal.value, ← Option.some.inj hread, Double.ofDecimal_eq_ofInt, value]
  · cases hread

theorem isPlain (digits : Digits) : ∀ c ∈ digits.text, c ≠ '.' ∧ c ≠ '/' := by
  intro c hc
  have hd := digits.isDigit c hc
  constructor
  · rintro rfl
    cases hd
  · rintro rfl
    cases hd

end Digits

theorem exists_digits {text : List Char} (h : Literal.isNumber text) (hc : ∀ c ∈ text, c ≠ '.' ∧ c ≠ '/') :
    ∃ digits : Digits, digits.text = text :=
  ⟨⟨text, Literal.ne_nil_of_isNumber h, fun c hm =>
    Literal.isDigit_of_ne_point (Literal.isLiteralChar_of_isNumber h c hm) (hc c hm).1⟩, rfl⟩

theorem IsExpression.join {left right : List Char} (hl : IsExpression left) (hr : IsExpression right) (op : Operator) :
    IsExpression (left ++ op.symbol :: right) := by
  induction hl with
  | number h => exact .operation h op hr
  | operation h op' _ ih =>
      rw [List.append_assoc]
      exact .operation h op' ih

namespace IntegerProduct

@[simp] theorem text_nil (first : Digits) : text ⟨first, []⟩ = first.text := List.append_nil _

@[simp] theorem text_cons (first digits : Digits) (rest : List Digits) :
    text ⟨first, digits :: rest⟩ = first.text ++ Operator.times.symbol :: text ⟨digits, rest⟩ := rfl

theorem isExpression (product : IntegerProduct) : IsExpression product.text := by
  obtain ⟨first, rest⟩ := product
  induction rest generalizing first with
  | nil =>
      rw [text_nil]
      exact .number first.value_text.1
  | cons digits rest ih => exact .operation first.value_text.1 .times (ih digits)

theorem isPlain (product : IntegerProduct) : ∀ c ∈ product.text, c ≠ '.' ∧ c ≠ '/' := by
  intro c hc
  rcases List.mem_append.mp hc with hc | hc
  · exact product.first.isPlain c hc
  · obtain ⟨digits, _, hc⟩ := List.mem_flatMap.mp hc
    rcases List.mem_cons.mp hc with rfl | hc
    · decide
    · exact digits.isPlain c hc

end IntegerProduct

namespace IntegerSum

@[simp] theorem text_nil (first : IntegerProduct) : text ⟨first, []⟩ = first.text := List.append_nil _

@[simp] theorem text_cons (first : IntegerProduct) (piece : Sign × IntegerProduct)
    (rest : List (Sign × IntegerProduct)) :
    text ⟨first, piece :: rest⟩ = first.text ++ piece.1.operator.symbol :: text ⟨piece.2, rest⟩ := rfl

theorem isExpression (sum : IntegerSum) : IsExpression sum.text := by
  obtain ⟨first, rest⟩ := sum
  induction rest generalizing first with
  | nil =>
      rw [text_nil]
      exact first.isExpression
  | cons piece rest ih => exact first.isExpression.join (ih piece.2) piece.1.operator

theorem isPlain (sum : IntegerSum) : ∀ c ∈ sum.text, c ≠ '.' ∧ c ≠ '/' := by
  intro c hc
  rcases List.mem_append.mp hc with hc | hc
  · exact sum.first.isPlain c hc
  · obtain ⟨piece, _, hc⟩ := List.mem_flatMap.mp hc
    rcases List.mem_cons.mp hc with rfl | hc
    · cases piece.1 with
      | plus => decide
      | minus => decide
    · exact piece.2.isPlain c hc

end IntegerSum

theorem exists_integerSum {text : List Char} (h : IsExpression text) (hc : ∀ c ∈ text, c ≠ '.' ∧ c ≠ '/') :
    ∃ sum : IntegerSum, sum.text = text := by
  induction h with
  | number h =>
      obtain ⟨digits, rfl⟩ := exists_digits h hc
      exact ⟨⟨⟨digits, []⟩, []⟩, by simp⟩
  | operation h op _ ih =>
      obtain ⟨hfirst, hrest⟩ := List.forall_mem_append.mp hc
      obtain ⟨hop, hrest⟩ := List.forall_mem_cons.mp hrest
      obtain ⟨digits, rfl⟩ := exists_digits h hfirst
      obtain ⟨⟨⟨first, factors⟩, rest⟩, rfl⟩ := ih hrest
      cases op with
      | plus => exact ⟨⟨⟨digits, []⟩, (.plus, ⟨first, factors⟩) :: rest⟩, by simp [Sign.operator]⟩
      | minus => exact ⟨⟨⟨digits, []⟩, (.minus, ⟨first, factors⟩) :: rest⟩, by simp [Sign.operator]⟩
      | times => exact ⟨⟨⟨digits, first :: factors⟩, rest⟩, by simp [IntegerSum.text]⟩
      | divide => exact absurd rfl hop.2

/-! ## Their tokens -/

theorem mapM_read_joined {left right : List Char} {tokens more : List Token}
    (hl : (lexemes left).mapM Lexeme.read = .ok tokens) (hr : (lexemes right).mapM Lexeme.read = .ok more)
    (op : Operator) :
    (lexemes (left ++ op.symbol :: right)).mapM Lexeme.read = .ok (tokens ++ .operator op :: more) := by
  simp [lexemes_append_symbol, hl, hr, Lexeme.read]

theorem Digits.mapM_read {digits : Digits} (h : digits.value ≤ 2 ^ (53 : Nat)) :
    (lexemes digits.text).mapM Lexeme.read = .ok [.number (ofInt digits.value)] := by
  obtain ⟨hn, hv⟩ := digits.value_text
  have hf : Literal.fault? digits.text = none := Literal.fault?_eq_none.mpr ⟨hn, hv ▸ isFinite_ofInt_natCast h⟩
  simp [lexemes_number hn, Lexeme.read, hf, hv]

theorem IntegerProduct.mapM_read {product : IntegerProduct}
    (h : ∀ digits ∈ product.first :: product.rest, digits.value ≤ 2 ^ (53 : Nat)) :
    (lexemes product.text).mapM Lexeme.read = .ok product.chain.toTokens := by
  obtain ⟨first, rest⟩ := product
  obtain ⟨hfirst, hrest⟩ := List.forall_mem_cons.mp h
  induction rest generalizing first with
  | nil =>
      rw [text_nil]
      exact Digits.mapM_read hfirst
  | cons digits rest ih =>
      obtain ⟨hdigits, hmore⟩ := List.forall_mem_cons.mp hrest
      exact mapM_read_joined (Digits.mapM_read hfirst) (ih digits hrest hdigits hmore) .times

theorem IntegerSum.mapM_read {sum : IntegerSum}
    (h : ∀ product ∈ sum.first :: sum.rest.map Prod.snd, product.IsBounded) :
    (lexemes sum.text).mapM Lexeme.read = .ok sum.terms.toTokens := by
  obtain ⟨first, rest⟩ := sum
  obtain ⟨hfirst, hrest⟩ := List.forall_mem_cons.mp h
  induction rest generalizing first with
  | nil =>
      rw [text_nil]
      exact (IntegerProduct.mapM_read hfirst.factors).trans (congrArg Except.ok (List.append_nil _).symm)
  | cons piece rest ih =>
      obtain ⟨hpiece, hmore⟩ := List.forall_mem_cons.mp hrest
      exact mapM_read_joined (IntegerProduct.mapM_read hfirst.factors) (ih piece.2 hrest hpiece hmore) piece.1.operator

/-! ## Their values -/

theorem apply_times (hn : n ≤ 2 ^ (53 : Nat)) (hk : k ≤ 2 ^ (53 : Nat)) (h : n * k ≤ 2 ^ (53 : Nat)) :
    Operator.times.apply (ofInt n) (ofInt k) = .ok (ofInt (n * k : Nat)) :=
  Operator.apply_eq_ok.mpr ⟨(ofInt_mul hn hk).symm, isFinite_ofInt_natCast h⟩

theorem Sign.apply_operator (ha : a.natAbs ≤ 2 ^ (53 : Nat)) (hb : b.natAbs ≤ 2 ^ (53 : Nat))
    (h : (sign.apply a b).natAbs ≤ 2 ^ (53 : Nat)) :
    sign.operator.apply (ofInt a) (ofInt b) = .ok (ofInt (sign.apply a b)) := by
  refine Operator.apply_eq_ok.mpr ⟨?_, (quanta_ofInt h).2⟩
  cases sign with
  | plus => exact (ofInt_add ha hb).symm
  | minus => exact (ofInt_sub ha hb).symm

theorem fold_times {rest : List Digits} (hr : ∀ digits ∈ rest, digits.value ≤ 2 ^ (53 : Nat))
    (hp : ∀ k ∈ rest.scanl (fun left digits => left * digits.value) n, k ≤ 2 ^ (53 : Nat)) :
    Chain.fold ⟨ofInt n, rest.map fun digits => (.times, ofInt digits.value)⟩ =
      .ok (ofInt (rest.foldl (fun left digits => left * digits.value) n : Nat)) := by
  -- The product so far is a parameter, and heads the list of those that are bounded.
  induction rest generalizing n with
  | nil => rfl
  | cons digits rest ih =>
      rw [List.scanl_cons] at hp
      obtain ⟨hn, hp⟩ := List.forall_mem_cons.mp hp
      obtain ⟨hdigits, hr⟩ := List.forall_mem_cons.mp hr
      have hproduct := hp _ (List.mem_of_mem_head? List.head?_scanl)
      rw [List.map_cons, Chain.fold_cons, apply_times hn hdigits hproduct, Outcome.ok_bind, ih hr hp, List.foldl_cons]

theorem fold_signs {rest : List (Sign × IntegerProduct)} (hr : ∀ piece ∈ rest, piece.2.value ≤ 2 ^ (53 : Nat))
    (hp : ∀ z ∈ rest.scanl (fun left piece => piece.1.apply left piece.2.value) a, z.natAbs ≤ 2 ^ (53 : Nat)) :
    Chain.fold ⟨ofInt a, rest.map fun piece => (piece.1.operator, ofInt piece.2.value)⟩ =
      .ok (ofInt (rest.foldl (fun left piece => piece.1.apply left piece.2.value) a)) := by
  induction rest generalizing a with
  | nil => rfl
  | cons piece rest ih =>
      rw [List.scanl_cons] at hp
      obtain ⟨ha, hp⟩ := List.forall_mem_cons.mp hp
      obtain ⟨hpiece, hr⟩ := List.forall_mem_cons.mp hr
      have hsum := hp _ (List.mem_of_mem_head? List.head?_scanl)
      rw [List.map_cons, Chain.fold_cons, Sign.apply_operator ha (b := piece.2.value) hpiece hsum, Outcome.ok_bind,
        ih hr hp, List.foldl_cons]

namespace IntegerProduct

variable {product : IntegerProduct}

theorem IsBounded.value_le (h : product.IsBounded) : product.value ≤ 2 ^ (53 : Nat) :=
  h.partials _ (List.mem_of_getLast? List.getLast?_scanl)

theorem fold_chain (h : product.IsBounded) : product.chain.fold = .ok (ofInt product.value) :=
  fold_times (List.forall_mem_cons.mp h.factors).2 h.partials

end IntegerProduct

namespace IntegerSum

variable {sum : IntegerSum}

theorem IsBounded.natAbs_value_le (h : sum.IsBounded) : sum.value.natAbs ≤ 2 ^ (53 : Nat) :=
  h.partials _ (List.mem_of_getLast? List.getLast?_scanl)

theorem mapM_foldPiece {rest : List (Sign × IntegerProduct)} (h : ∀ piece ∈ rest, piece.2.IsBounded) :
    (rest.map fun piece => (piece.1.operator, piece.2.chain)).mapM Chain.foldPiece =
      .ok (rest.map fun piece => (piece.1.operator, ofInt piece.2.value)) := by
  induction rest with
  | nil => rfl
  | cons piece rest ih =>
      obtain ⟨hpiece, hrest⟩ := List.forall_mem_cons.mp h
      rw [List.map_cons, List.mapM_cons, ih hrest, Chain.foldPiece, IntegerProduct.fold_chain hpiece]
      rfl

theorem value_terms (h : sum.IsBounded) : sum.terms.value = .ok (ofInt sum.value) := by
  obtain ⟨hfirst, hrest⟩ := List.forall_mem_cons.mp h.products
  have hpieces : ∀ piece ∈ sum.rest, piece.2.IsBounded := fun piece hm => hrest _ (List.mem_map_of_mem hm)
  simp only [terms, SumOfTerms.value, IntegerProduct.fold_chain hfirst, mapM_foldPiece hpieces, Outcome.ok_bind]
  exact fold_signs (fun piece hm => (hpieces piece hm).value_le) h.partials

theorem isCutOf_terms {chain : Chain} (h : sum.terms.toTokens = chain.toTokens) : sum.terms.IsCutOf chain where
  tokens := h
  between := by
    intro piece hm
    obtain ⟨⟨sign, _⟩, _, rfl⟩ := List.mem_map.mp hm
    cases sign with
    | plus => exact .inl rfl
    | minus => exact .inr rfl
  within := by
    have hterms : sum.terms.terms = (sum.first :: sum.rest.map Prod.snd).map IntegerProduct.chain := by
      simp [terms, SumOfTerms.terms]
    intro term ht link hl
    rw [hterms] at ht
    obtain ⟨product, _, rfl⟩ := List.mem_map.mp ht
    obtain ⟨digits, _, rfl⟩ := List.mem_map.mp hl
    exact .inl rfl

theorem calculate_eq (h : sum.IsBounded) (hs : sum.text = s.toList) : calculate s = .ok (ofInt sum.value) := by
  have hexpression : IsExpression s.toList := hs ▸ sum.isExpression
  have hread : (lexemes s.toList).mapM Lexeme.read = .ok sum.terms.toTokens := hs ▸ mapM_read h.products
  obtain ⟨chain, hc⟩ := hexpression.exists_chain hread
  have ht : tokenize s = .ok chain.toTokens := by rw [tokenize_of_legal hexpression.legal, hread, hc]
  rw [calculate_of_tokenize ht, reduce_toTokens, (isCutOf_terms hc).terms_eq, value_terms h]

end IntegerSum

/-- An expression of digits, `+`, `-` and `*` alone is a sum of products of integers. When the literals and all products
and sums from left to right are at most `2 ^ 53` in magnitude, its value is just the integer, and written as such. -/
theorem evaluate_integers :
    (∀ s : String, (∃ sum : IntegerSum, sum.text = s.toList) ↔
      IsExpression s.toList ∧ ∀ c ∈ s.toList, c ≠ '.' ∧ c ≠ '/') ∧
    ∀ (sum : IntegerSum) (s : String), sum.IsBounded → sum.text = s.toList →
      calculate s = .ok (ofInt sum.value) ∧ (ofInt sum.value).isFinite ∧
        (ofInt sum.value).quanta = quantaPerOne * sum.value ∧ evaluate s = .ok (toString sum.value) := by
  constructor
  · intro s
    constructor
    · rintro ⟨sum, hs⟩
      exact ⟨hs ▸ sum.isExpression, hs ▸ sum.isPlain⟩
    · rintro ⟨h, hc⟩
      exact exists_integerSum h hc
  · intro sum s h hs
    obtain ⟨hq, hf⟩ := quanta_ofInt h.natAbs_value_le
    have hv := IntegerSum.calculate_eq h hs
    refine ⟨hv, hf, hq, evaluate_eq_ok.mpr ⟨_, hv, ?_⟩⟩
    rw [Double.resultText_eq_text, Double.unsignedZero_of_ne (ne_negZero_of_calculate hv),
      Double.text_ofInt h.natAbs_value_le]

theorem evaluate_integers_above_limit :
    let seven : Digits := ⟨"7".toList, by decide, by simp⟩
    let factor : Digits := ⟨"94906265".toList, by decide, by simp⟩
    let twelve : Digits := ⟨"012".toList, by decide, by simp⟩
    let sum : IntegerSum := ⟨⟨seven, []⟩, [(.minus, ⟨factor, [factor]⟩), (.plus, ⟨twelve, []⟩)]⟩
    sum.IsBounded ∧ sum.text = "7-94906265*94906265+012".toList ∧ Double.numeralLimit < sum.value.natAbs ∧
      calculate "7-94906265*94906265+012" = .ok (ofInt sum.value) ∧
      evaluate "7-94906265*94906265+012" = .ok "-9007199136250206" := by
  intro seven factor twelve sum
  have hbounded : sum.IsBounded := by decide
  have htext : sum.text = "7-94906265*94906265+012".toList := by decide
  have hnumeral : toString sum.value = "-9007199136250206" := by decide
  obtain ⟨_, hall⟩ := evaluate_integers
  obtain ⟨hvalue, _, _, heval⟩ := hall sum _ hbounded htext
  exact ⟨hbounded, htext, by decide, hvalue, hnumeral ▸ heval⟩

end Calculator
