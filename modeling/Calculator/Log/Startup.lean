import Calculator.Log.Directive

/-!
# The start of the program

The program greets in its log before its window opens. The filter set by the user says whether the line is
shown.
-/

namespace Calculator.Log

/-! ## Filters

A filter is a list of directives between commas. For a line the weightiest directive that applies to it decides. -/

/-- The later of two directives of one weight counts. -/
abbrev Filter := List Directive

namespace Filter

/-- Nothing between two commas is no directive. The first directive with a fault decides which fault the
filter has. -/
def read (text : String) : Except FilterFault Filter :=
  ((text.toList.splitOn ',').filter (· ≠ [])).mapM Directive.read

def deciding? (filter : Filter) (origin : Origin) : Option Directive :=
  (filter.filter (·.appliesTo origin)).foldl
    (fun best next => if best.all (·.weight ≤ next.weight) then some next else best) none

def admits (filter : Filter) (origin : Origin) : Bool :=
  (filter.deciding? origin).any (·.threshold.admits origin.level)

end Filter

/-! ## The greeting -/

structure Line where
  level : Level
  message : String
  deriving DecidableEq

namespace Startup

def greeting : Line := ⟨.info, "démarrage de Calculatrice"⟩

/-- A line has its message as its only field. -/
def origin (line : Line) : Origin := ⟨"calculatrice_quatre_ops", line.level, ["message"]⟩

def defaultFilter : Filter :=
  [{ target := some "calculatrice_quatre_ops", threshold := .upTo .info }]

/-- Without a filter, or with a malformed one, the default is used. A filter that cannot even be cut into its
parts stops the program before it says anything. -/
def filterOf? : Option String → Option Filter
  | none => some defaultFilter
  | some text =>
    match Filter.read text with
    | .ok filter => some filter
    | .error .malformed => some defaultFilter
    | .error .cutCharacter => none

def lines (setting : Option String) : List Line :=
  (filterOf? setting).elim [] fun filter => [greeting].filter (filter.admits <| origin ·)

end Startup

end Calculator.Log
