import Calculator.Pattern.Atom

/-!
# Brackets in patterns

Sets of characters in brackets: characters, ranges, named classes and sets within, joined by `&&`, `--` and
`~~`.
-/

namespace Calculator.Pattern.Bracket

def classNames : List String :=
  ["alnum", "alpha", "ascii", "blank", "cntrl", "digit", "graph", "lower", "print", "punct", "space", "upper",
   "word", "xdigit"]

/-- Reads the name of a class and what closes it. -/
def readName? (negated : Bool) (text : List Char) : Option (Bool × List Char) :=
  let (name, rest) := text.span (· ≠ ':')
  match rest with
  | ':' :: ']' :: rest => if String.ofList name ∈ classNames then some (negated, rest) else none
  | _ => none

/-- Reads a named class, such as `[:alpha:]` or `[:^alpha:]`, after its opening bracket, and says whether it is
negated. -/
def readNamed? : List Char → Option (Bool × List Char)
  | ':' :: '^' :: rest => readName? true rest
  | ':' :: rest => readName? false rest
  | _ => none

def isAllowedClass (mode : Mode) (negated : Bool) : Bool := if mode.unicode then !mode.caseless else !negated

/-- The next character after a hyphen that may stand between two ends of a range. -/
def peek? (mode : Mode) (text : List Char) : Option Char :=
  if mode.spaced then
    let text := text.dropWhile Text.isBlank
    ((if text.head? = some '#' then text.drop 1 else text).dropWhile Text.isBlank).head?
  else
    text.head?

/-- Reads a character, a shorthand or a range. A hyphen before the closing bracket or another hyphen makes no
range. -/
def readItem? (mode : Mode) (text : List Char) : Option (List Char) := do
  let (first, rest) ← Atom.read? mode true text
  let single := if first.isAllowedInSet mode then some (mode.skip rest) else none
  match mode.skip rest with
  | [] => none
  | '-' :: after =>
    if peek? mode after = some ']' ∨ peek? mode after = some '-' then
      single
    else
      let (last, rest) ← Atom.read? mode true (mode.skip after)
      match first, last with
      | .literal a _, .literal b _ =>
        if a ≤ b ∧ first.isAllowedInSet mode ∧ last.isAllowedInSet mode then some rest else none
      | _, _ => none
  | _ => single

/-- Reads a sign of negation, if there is one. -/
def readSign (mode : Mode) (text : List Char) : Bool × List Char :=
  match mode.skip text with
  | '^' :: rest => (true, mode.skip rest)
  | text => (false, text)

/-- Reads hyphens that stand for themselves, and counts them. The fuel is no less than the length of the text. -/
def readHyphens (mode : Mode) : Nat → Nat → List Char → Nat × List Char
  | fuel + 1, count, '-' :: rest => readHyphens mode fuel (count + 1) (mode.skip rest)
  | _, count, text => (count, text)

/-- Reads the characters that stand for themselves only at the start of a set, and counts them. -/
def readMarks (mode : Mode) (text : List Char) : Nat × List Char :=
  match readHyphens mode text.length 0 text with
  | (0, ']' :: rest) => (1, mode.skip rest)
  | marks => marks

/-- Reads the start of a set after its opening bracket. Gives the number of characters that it has of its own. -/
def readStart? (mode : Mode) (text : List Char) : Option (Nat × List Char) :=
  let (negated, text) := readSign mode text
  let (count, rest) := readMarks mode text
  if rest = [] ∨ negated ∧ !mode.unicode ∨ 0 < count ∧ !Atom.isAllowedInSet mode (.literal '-' false) then
    none
  else
    some (count, rest)

/-- What a set goes on with, and the rest behind it. -/
inductive Part where
  | close (rest : List Char)
  | join (rest : List Char)
  | item (rest : List Char)
  /-- A set within, that begins with so many characters of its own. -/
  | set (count : Nat) (rest : List Char)

def Part.rest : Part → List Char
  | close rest | join rest | item rest | set _ rest => rest

def readPart? (mode : Mode) (text : List Char) : Option Part :=
  match mode.skip text with
  | [] => none
  | ']' :: rest => some (.close rest)
  | '&' :: '&' :: rest => some (.join rest)
  | '-' :: '-' :: rest => some (.join rest)
  | '~' :: '~' :: rest => some (.join rest)
  | '[' :: rest =>
    match readNamed? rest with
    | some (negated, rest) => if isAllowedClass mode negated then some (.item rest) else none
    | none => (readStart? mode rest).map fun (count, rest) => .set count rest
  | text => (readItem? mode text).map .item

/-- Reads a set up to its closing bracket, and gives its depth. The fuel is no less than the length of the
text. -/
def readSet? (mode : Mode) : Nat → Option Nat → Nest → List Char → Option (Nat × List Char)
  | 0, _, _, _ => none
  | fuel + 1, joined, items, text => do
    let depth := joined.elim items.total (max · items.total + 1)
    match ← readPart? mode text with
    | .close rest => some (depth + 1, rest)
    | .join rest => readSet? mode fuel (some depth) {} rest
    | .item rest => readSet? mode fuel joined (items.add 0) rest
    | .set count rest =>
      let (depth, rest) ← readSet? mode fuel none ⟨count, 0⟩ rest
      readSet? mode fuel joined (items.add depth) rest

/-- Reads a set after its opening bracket. -/
def read? (mode : Mode) (text : List Char) : Option (Nat × List Char) := do
  let (count, rest) ← readStart? mode text
  readSet? mode text.length none ⟨count, 0⟩ rest

end Calculator.Pattern.Bracket
