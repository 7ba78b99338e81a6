import Calculator.Pattern.Bracket

/-!
# Patterns

Which texts without closing braces are regular expressions: branches between bars, each a sequence of atoms,
sets and groups, which may be repeated. What they match is not asked here.
-/

namespace Calculator.Pattern

/-! ## Groups -/

/-- The letters that change the mode, and the hyphen before those that are switched off. -/
def modeLetters : List Char := ['i', 'm', 's', 'U', 'u', 'R', 'x', '-']

/-- A letter may come once only, and so may the hyphen, which has to have letters after it. -/
def isModeChange (letters : List Char) : Bool :=
  letters.all (· ∈ modeLetters) && decide letters.Nodup && letters.getLast? != some '-'

def Mode.change (mode : Mode) (letters : List Char) : Mode :=
  let (on, off) := letters.span (· ≠ '-')
  let switch (letter : Char) (before : Bool) := letter ∈ on || (before && letter ∉ off)
  ⟨switch 'x' mode.spaced, switch 'u' mode.unicode, switch 'i' mode.caseless⟩

def isGroupName (name : List Char) : Bool :=
  match name with
  | [] => false
  | c :: rest =>
    (c = '_' || Text.isAlphabetic c) &&
      rest.all fun c => c ∈ ['_', '.', '[', ']'] || Text.isAlphanumeric c

/-- What stands after an opening parenthesis. -/
inductive Opening where
  | group (mode : Mode)
  | named (name : List Char)
  /-- The mode is changed for the rest of the group around. -/
  | change (mode : Mode)

/-- Reads up to the closing angle bracket. -/
def readName? (text : List Char) : Option (Opening × List Char) :=
  let (name, rest) := text.span (· ≠ '>')
  match rest with
  | _ :: rest => if isGroupName name then some (.named name, rest) else none
  | [] => none

/-- A group that only looks ahead or behind is no part of a pattern. -/
def readOpening? (mode : Mode) (text : List Char) : Option (Opening × List Char) :=
  match mode.skip text with
  | '?' :: 'P' :: '<' :: rest => readName? rest
  | '?' :: '<' :: rest =>
    if rest.head? = some '=' ∨ rest.head? = some '!' then none else readName? rest
  | '?' :: rest =>
    let (letters, rest) := rest.span fun c => c ≠ ':' ∧ c ≠ ')'
    if isModeChange letters then
      match rest with
      | ':' :: rest => some (.group (mode.change letters), rest)
      | ')' :: rest => if letters = [] then none else some (.change (mode.change letters), rest)
      | _ => none
    else
      none
  | text => some (.group mode, text)

/-! ## Sequences -/

/-- What has been read of a group: its branches, the one being read, and the depth of the part that a
repetition would take, if there is one. The names are those of all groups so far. -/
structure Progress where
  names : List (List Char) := []
  branches : Nest := {}
  branch : Nest := {}
  last : Option Nat := none

namespace Progress

def depth (p : Progress) : Nat := (p.branches.add p.branch.total).total

def add (depth : Nat) (p : Progress) : Progress :=
  { p with branch := p.branch.add depth, last := some depth }

/-- The last part is repeated, and so becomes a part of one level more. -/
def repeatLast (depth : Nat) (p : Progress) : Progress :=
  { p with branch := { p.branch with depth := max p.branch.depth (depth + 1) }, last := some (depth + 1) }

/-- A change of the mode is a part too, but none that can be repeated. -/
def addChange (p : Progress) : Progress := { p with branch := p.branch.add 0, last := none }

def nextBranch (p : Progress) : Progress :=
  { p with branches := p.branches.add p.branch.total, branch := {}, last := none }

end Progress

/-- What a group goes on with, and the rest behind it. -/
inductive Part where
  | close (rest : List Char)
  | bar (rest : List Char)
  | change (mode : Mode) (rest : List Char)
  | group (name : Option (List Char)) (mode : Mode) (rest : List Char)
  /-- A set of some depth, or an atom. -/
  | single (depth : Nat) (rest : List Char)
  | repetition (rest : List Char)

def Part.rest : Part → List Char
  | close rest | bar rest | change _ rest | group _ _ rest | single _ rest | repetition rest => rest

/-- A group ends with a closing parenthesis, and a whole pattern with its text. -/
def readPart? (inner : Bool) (mode : Mode) (text : List Char) : Option Part :=
  match mode.skip text with
  | [] => if inner then none else some (.close [])
  | ')' :: rest => if inner then some (.close rest) else none
  | '|' :: rest => some (.bar rest)
  | '(' :: rest =>
    (readOpening? mode rest).map fun
      | (.change changed, rest) => .change changed rest
      | (.group within, rest) => .group none within rest
      | (.named name, rest) => .group (some name) mode rest
  | '[' :: rest => (Bracket.read? mode rest).map fun (depth, rest) => .single depth rest
  | '\x7b' :: _ => none
  | c :: rest =>
    if c ∈ ['?', '*', '+'] then
      some (.repetition (if rest.head? = some '?' then rest.drop 1 else rest))
    else do
      let (atom, rest) ← Atom.read? mode false (c :: rest)
      if atom.isAllowed mode then some (.single 0 rest) else none

/-- Reads a group to its end. Gives the depth, the names of groups and the rest. The fuel is more than the length
of the text. -/
def readGroup? (inner : Bool) : Nat → Mode → Progress → List Char → Option (Nat × List (List Char) × List Char)
  | 0, _, _, _ => none
  | fuel + 1, mode, p, text => do
    match ← readPart? inner mode text with
    | .close rest => some (p.depth, p.names, rest)
    | .bar rest => readGroup? inner fuel mode p.nextBranch rest
    | .change changed rest => readGroup? inner fuel changed p.addChange rest
    | .group name within rest =>
      if name.any (· ∈ p.names) then
        none
      else
        let (depth, names, rest) ← readGroup? true fuel within { names := name.toList ++ p.names } rest
        readGroup? inner fuel mode ({ p with names }.add (depth + 1)) rest
    | .single depth rest => readGroup? inner fuel mode (p.add depth) rest
    | .repetition rest =>
      let depth ← p.last
      readGroup? inner fuel mode (p.repeatLast depth) rest

/-- Patterns may not be nested deeper. -/
def maxDepth : Nat := 250

def isValid (text : List Char) : Bool :=
  (readGroup? false (text.length + 1) {} {} text).any fun (depth, _, _) => depth ≤ maxDepth

end Calculator.Pattern
