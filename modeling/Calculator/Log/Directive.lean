import Calculator.Log.Level
import Calculator.Pattern.Basic

/-!
# Directives

A directive sets how far down some lines of a log are shown. It is a threshold alone, or
`target[span{field}]=threshold`, where the target, the part in brackets or the threshold may be missing.
-/

namespace Calculator

namespace Text

/-! ## Cutting by bytes

Parts of a text between positions that count the bytes of its encoding in UTF-8. A position within a character is none
that a text can be cut at. -/

def byteSize (text : List Char) : Nat := text.foldr (fun c size => c.utf8Size + size) 0

/-- The text after so many bytes. -/
def dropBytes? : Nat → List Char → Option (List Char)
  | 0, text => some text
  | _ + 1, [] => none
  | n + 1, c :: rest => if c.utf8Size ≤ n + 1 then dropBytes? (n + 1 - c.utf8Size) rest else none

/-- The text before so many bytes. -/
def takeBytes? : Nat → List Char → Option (List Char)
  | 0, _ => some []
  | _ + 1, [] => none
  | n + 1, c :: rest =>
    if c.utf8Size ≤ n + 1 then (takeBytes? (n + 1 - c.utf8Size) rest).map (c :: ·) else none

/-- The text from one position to another that is not before it. -/
def cut? (start stop : Nat) (text : List Char) : Option (List Char) :=
  (dropBytes? start text).bind (takeBytes? (stop - start))

variable {c : Char} {text : List Char} {n : Nat}

theorem byteSize_cons (c : Char) (text : List Char) : byteSize (c :: text) = c.utf8Size + byteSize text := rfl

theorem byteSize_append (before text : List Char) : byteSize (before ++ text) = byteSize before + byteSize text := by
  induction before with
  | nil => exact (Nat.zero_add _).symm
  | cons c before ih => rw [List.cons_append, byteSize_cons, byteSize_cons, ih, Nat.add_assoc]

theorem dropBytes?_cons (h : c.utf8Size ≤ n) : dropBytes? n (c :: text) = dropBytes? (n - c.utf8Size) text := by
  cases n with
  | zero => exact absurd h (Nat.not_le_of_lt c.utf8Size_pos)
  | succ n => exact if_pos h

theorem takeBytes?_cons (h : c.utf8Size ≤ n) :
    takeBytes? n (c :: text) = (takeBytes? (n - c.utf8Size) text).map (c :: ·) := by
  cases n with
  | zero => exact absurd h (Nat.not_le_of_lt c.utf8Size_pos)
  | succ n => exact if_pos h

theorem dropBytes?_append (before text : List Char) : dropBytes? (byteSize before) (before ++ text) = some text := by
  induction before with
  | nil => cases text <;> rfl
  | cons c before ih =>
      rw [byteSize_cons, List.cons_append, dropBytes?_cons (Nat.le_add_right _ _), Nat.add_sub_cancel_left, ih]

theorem takeBytes?_append (part after : List Char) : takeBytes? (byteSize part) (part ++ after) = some part := by
  induction part with
  | nil => cases after <;> rfl
  | cons c part ih =>
      rw [byteSize_cons, List.cons_append, takeBytes?_cons (Nat.le_add_right _ _), Nat.add_sub_cancel_left, ih,
        Option.map_some]

/-- A text can be cut where a part of it ends. -/
theorem cut?_append (before part after : List Char) :
    cut? (byteSize before) (byteSize before + byteSize part) (before ++ (part ++ after)) = some part := by
  rw [cut?, dropBytes?_append, Option.bind_some, Nat.add_sub_cancel_left, takeBytes?_append]

end Text

namespace Log

/-! ## Directives -/

/-- A line is of the directive's target if its own target starts with it. The part in brackets asks for a
surrounding span of some name, and for a field, by name or with a value. -/
structure Directive where
  target : Option String := none
  span : Option String := none
  field : Option String := none
  threshold : Threshold := .upTo .trace
  deriving DecidableEq

/-- A line of a log, as far as directives ask about it. -/
structure Origin where
  target : String
  level : Level
  fields : List String
  deriving DecidableEq

/-- Why a filter cannot be used. -/
inductive FilterFault where
  | malformed
  /-- A part of a directive would begin or end within a character. -/
  | cutCharacter
  deriving DecidableEq

namespace Directive

/-! ## Reading

A directive is told apart into its parts without the blanks around it. But the parts are then cut out of the
whole text at the positions found, so that behind blanks they come out shifted. -/

/-- Letters, digits, and the marks that names and paths are joined with. -/
def startsTarget (c : Char) : Bool := c ∈ ['-', ':', '_'] || Text.isAlphanumeric c

def cut (text : List Char) (start stop : Nat) : Except FilterFault String :=
  ((Text.cut? start stop text).map String.ofList).elim (.error .cutCharacter) .ok

/-- Reads the threshold from a position on. A blank one lets everything pass. -/
def readThreshold (text : List Char) (start : Nat) (directive : Directive) : Except FilterFault Directive :=
  match Text.dropBytes? start text with
  | none => .error .cutCharacter
  | some [] => .ok { directive with threshold := .upTo .trace }
  | some level =>
    match Threshold.read? level with
    | some threshold => .ok { directive with threshold }
    | none => .error .malformed

/-- Reads what follows the closing bracket, which stands before the position. -/
def readEnd (text : List Char) (start : Nat) (directive : Directive) :
    List Char → Except FilterFault Directive
  | [] => .ok directive
  | '=' :: _ => readThreshold text (start + 1) directive
  | _ => .error .malformed

/-- A number may have a sign, a fraction and an exponent, or be written as a name. -/
def isNumber (text : List Char) : Bool :=
  let unsigned (text : List Char) :=
    if text.head? = some '+' ∨ text.head? = some '-' then text.drop 1 else text
  let body := (unsigned text).map Char.toLower
  let (whole, rest) := body.span Char.isDigit
  let (fraction, rest) :=
    if rest.head? = some '.' then (rest.drop 1).span Char.isDigit else ([], rest)
  let isExponent := match rest with
    | [] => true
    | c :: digits => c = 'e' && unsigned digits ≠ [] && (unsigned digits).all Char.isDigit
  String.ofList body ∈ ["inf", "infinity", "nan"] || (whole ++ fraction ≠ [] && isExponent)

/-- The value of a field, after the first equals sign and before the next, is a number or a pattern. -/
def hasValidValue (field : List Char) : Bool :=
  match field.dropWhile (· ≠ '=') with
  | [] => true
  | _ :: rest =>
    let value := rest.takeWhile (· ≠ '=')
    isNumber value || Pattern.isValid value

/-- Reads the field of a span, and the closing braces and brackets. -/
def readField (text : List Char) (start : Nat) (directive : Directive) (rest : List Char) :
    Except FilterFault Directive :=
  let (inner, outer) := rest.span (· ≠ '\x7d')
  let stop := start + Text.byteSize inner
  match outer with
  | '\x7d' :: closing => do
    let field ← cut text start stop
    if field = "" ∨ !hasValidValue field.toList then
      .error .malformed
    else match closing with
      | ']' :: rest => readEnd text (stop + 2) { directive with field := some field } rest
      | _ => .error .malformed
  | _ => .error .malformed

/-- Reads what follows the opening bracket. A name may be left out before a field only. -/
def readSpan (text : List Char) (start : Nat) (directive : Directive) (rest : List Char) :
    Except FilterFault Directive :=
  let (inner, outer) := rest.span fun c => c ≠ ']' ∧ c ≠ '\x7b'
  let stop := start + Text.byteSize inner
  match outer with
  | ']' :: rest => do
    let span ← cut text start stop
    readEnd text (stop + 1) { directive with span := some span } rest
  | '\x7b' :: rest => do
    let span ← cut text start stop
    readField text (stop + 1) { directive with span := if span = "" then none else some span } rest
  | _ => .error .malformed

/-- A text that is no threshold is a target. -/
def readPlain (text : List Char) : Directive :=
  match Threshold.read? text with
  | some threshold => { threshold }
  | none => { target := some (String.ofList text) }

def read (text : List Char) : Except FilterFault Directive :=
  match Text.trim text with
  | [] => .error .malformed
  | '[' :: rest => readSpan text 1 {} rest
  | first :: trimmed =>
    if !startsTarget first then
      .error .malformed
    else
      let (inner, outer) := (first :: trimmed).span fun c => c ≠ '=' ∧ c ≠ '['
      let stop := Text.byteSize inner
      match outer with
      | [] => .ok (readPlain text)
      | '=' :: _ => do
        let target ← cut text 0 stop
        readThreshold text (stop + 1) { target := some target }
      | _ :: rest => do
        let target ← cut text 0 stop
        readSpan text (stop + 1) { target := some target } rest

/-! ## Use -/

/-- Whether the directive speaks of lines outside all spans too. One that asks for a span does not, nor one that
asks for the value of a field. -/
def isPlain (directive : Directive) : Bool :=
  directive.span.isNone && directive.field.all (!·.toList.contains '=')

def appliesTo (origin : Origin) (directive : Directive) : Bool :=
  directive.isPlain && directive.target.all (·.toList.isPrefixOf origin.target.toList) &&
    directive.field.all (origin.fields.contains ·)

/-- The directives for a line in the order of their weight: a longer target outweighs a shorter one or none, and
of two with one target the one with a field weighs more. -/
def weight (directive : Directive) : Nat :=
  2 * (directive.target.map (·.utf8ByteSize + 1)).getD 0 + directive.field.isSome.toNat

end Directive

end Log

end Calculator
