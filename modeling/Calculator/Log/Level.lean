/-!
# Levels of log lines

How important a line is, and how far down a log goes.
-/

namespace Calculator.Log

/-- From the most important to the least. -/
inductive Level where
  | error
  | warn
  | info
  | debug
  | trace
  deriving DecidableEq

def Level.name : Level → String
  | error => "ERROR"
  | warn => "WARN"
  | info => "INFO"
  | debug => "DEBUG"
  | trace => "TRACE"

/-- The number of the level, which grows with the detail. -/
def Level.number : Level → Nat
  | error => 1
  | warn => 2
  | info => 3
  | debug => 4
  | trace => 5

/-- The last level that a log still shows, if it shows any. -/
inductive Threshold where
  | off
  | upTo (level : Level)
  deriving DecidableEq

namespace Threshold

def admits (level : Level) : Threshold → Bool
  | off => false
  | upTo last => level.number ≤ last.number

def ofNumber? : Nat → Option Threshold
  | 0 => some off
  | 1 => some (upTo .error)
  | 2 => some (upTo .warn)
  | 3 => some (upTo .info)
  | 4 => some (upTo .debug)
  | 5 => some (upTo .trace)
  | _ => none

/-- The digits of a number, which may stand behind a plus sign. -/
def digits? (text : List Char) : Option (List Char) :=
  let digits := if text.head? = some '+' then text.drop 1 else text
  if digits ≠ [] ∧ digits.all Char.isDigit then some digits else none

/-- A threshold is given by number, or by name in any case. -/
def read? (text : List Char) : Option Threshold :=
  match digits? text with
  | some digits => ofNumber? (Nat.ofDigitChars 10 digits 0)
  | none => match String.ofList (text.map Char.toLower) with
      | "off" => some off
      | "error" => some (upTo .error)
      | "warn" => some (upTo .warn)
      | "info" => some (upTo .info)
      | "debug" => some (upTo .debug)
      | "trace" => some (upTo .trace)
      | _ => none

end Threshold

end Calculator.Log
