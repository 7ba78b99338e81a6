import Calculator.Text.Classes

/-!
# Atoms of patterns

Patterns are regular expressions. An atom is a character, a class with a name of its own, or an assertion
about a place in a text, written by the character that it is or after a backslash.
-/

namespace Calculator.Pattern

/-- How the part of a pattern that is being read is understood. -/
structure Mode where
  /-- Blanks and comments in the pattern count for nothing. -/
  spaced : Bool := false
  /-- The pattern speaks of characters, and not of bytes. -/
  unicode : Bool := true
  caseless : Bool := false
  deriving DecidableEq

/-- The pattern after blanks and comments, where they count for nothing. A comment ends with its line. -/
def Mode.skip (mode : Mode) (text : List Char) : List Char :=
  if mode.spaced then go false text else text
where
  go (comment : Bool) : List Char → List Char
    | [] => []
    | c :: rest =>
      if comment then go (c ≠ '\n') rest
      else if c = '#' then go true rest
      else if Text.isBlank c then go false rest
      else c :: rest

inductive Atom where
  /-- A character that is written by its number in two digits stands for a byte where bytes count. -/
  | literal (c : Char) (byte : Bool)
  /-- Digits, spaces or the characters of words, or all others. -/
  | shorthand (negated : Bool)
  | property
  | any
  | edge
  | wordEdge
  deriving DecidableEq

namespace Atom

/-- The tables of Unicode are not at hand, so that what needs them is refused: letters in either case, and the
classes and edges of words. Nor may a pattern match a part of a character. -/
def isAllowed (mode : Mode) : Atom → Bool
  | literal c byte => if mode.unicode then !mode.caseless else !byte || c.toNat < 0x80
  | shorthand negated => !mode.unicode && !negated
  | property => false
  | any => mode.unicode
  | edge => true
  | wordEdge => !mode.unicode

/-- In brackets there are no places, and no characters beyond ASCII where bytes count. -/
def isAllowedInSet (mode : Mode) : Atom → Bool
  | literal c _ => if mode.unicode then !mode.caseless else c.toNat < 0x80
  | shorthand negated => !mode.unicode && !negated
  | _ => false

/-! ## Reading -/

def hexValue? (c : Char) : Option Nat :=
  if c.isDigit then some (c.toNat - 48)
  else if 'a' ≤ c ∧ c ≤ 'f' then some (c.toNat - 87)
  else if 'A' ≤ c ∧ c ≤ 'F' then some (c.toNat - 55)
  else none

/-- Reads so many digits of a number with the value before them. -/
def readHex? (mode : Mode) : Nat → Nat → List Char → Option (Nat × List Char)
  | 0, value, text => some (value, text)
  | _ + 1, _, [] => none
  | n + 1, value, c :: rest => do
    let digit ← hexValue? c
    readHex? mode n (16 * value + digit) (mode.skip rest)

def readNumbered? (mode : Mode) (digits : Nat) (text : List Char) : Option (Atom × List Char) := do
  let (n, rest) ← readHex? mode digits 0 (mode.skip text)
  if n.isValidChar then some (literal (Char.ofNat n) (digits = 2), rest) else none

/-- The control character that a letter after a backslash stands for. -/
def control? : Char → Option Char
  | 'a' => some '\x07'
  | 't' => some '\t'
  | 'n' => some '\n'
  | 'v' => some '\x0b'
  | 'f' => some '\x0c'
  | 'r' => some '\r'
  | _ => none

/-- Reads what follows a backslash. A number or a name in braces is not read, because a pattern has no closing
brace. -/
def readEscape? (mode : Mode) : List Char → Option (Atom × List Char)
  | [] => none
  | 'x' :: rest => readNumbered? mode 2 rest
  | 'u' :: rest => readNumbered? mode 4 rest
  | 'U' :: rest => readNumbered? mode 8 rest
  | c :: rest =>
    if c ∈ ['d', 's', 'w'] then some (shorthand false, rest)
    else if c ∈ ['D', 'S', 'W'] then some (shorthand true, rest)
    else if c ∈ ['p', 'P'] then
      match mode.skip rest with
      | [] => none
      | name :: rest => if name ∈ ['\\', '\x7b'] then none else some (property, mode.skip rest)
    else if c ∈ ['A', 'z'] then some (edge, rest)
    else if c ∈ ['b', 'B', '<', '>'] then some (wordEdge, rest)
    else if c.toNat < 0x80 ∧ !c.isAlphanum then some (literal c false, rest)
    else (control? c).map (literal · false, rest)

/-- Reads an atom of a pattern; in brackets only the backslash is special. -/
def read? (mode : Mode) (inSet : Bool) : List Char → Option (Atom × List Char)
  | [] => none
  | '\\' :: rest => readEscape? mode rest
  | c :: rest =>
    if inSet then some (literal c false, rest)
    else if c = '.' then some (any, rest)
    else if c ∈ ['^', '$'] then some (edge, rest)
    else some (literal c false, rest)

end Atom

/-! ## Nesting -/

/-- How many parts stand side by side, and how deep the deepest of them is nested. -/
structure Nest where
  parts : Nat := 0
  depth : Nat := 0
  deriving DecidableEq

def Nest.add (nest : Nest) (depth : Nat) : Nest := ⟨nest.parts + 1, max nest.depth depth⟩

/-- Two parts or more are a level of their own. -/
def Nest.total (nest : Nest) : Nat := if nest.parts ≤ 1 then nest.depth else nest.depth + 1

end Calculator.Pattern
