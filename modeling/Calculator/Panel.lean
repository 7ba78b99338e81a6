/-!
# The panel

What a calculator holds between two frames: the entry, and what came of the last evaluation. A result and
an error are never shown together.
-/

namespace Calculator

structure Panel where
  entry : String := ""
  result : String := ""
  error : String := ""
  /-- The tokens of the expression that gave the result, spaced out. -/
  preview : String := ""
  /-- Whether the entry is to get the keyboard in the next frame. -/
  focus : Bool := true
  deriving DecidableEq

namespace Panel

/-- Appends a character to the entry as it is. -/
def type (c : Char) (panel : Panel) : Panel :=
  { panel with entry := panel.entry.push c, focus := true }

/-- Removes the last character of the entry, if there is one. -/
def deleteLast (panel : Panel) : Panel :=
  { panel with entry := String.ofList panel.entry.toList.dropLast, focus := true }

def clear (_ : Panel) : Panel := {}

def fail (message : String) (panel : Panel) : Panel :=
  { panel with result := "", error := message, preview := "", focus := true }

def succeed (result preview : String) (panel : Panel) : Panel :=
  { panel with result := result, error := "", preview := preview, focus := true }

def loseFocus (panel : Panel) : Panel := { panel with focus := false }

/-- What stands under the entry: the error, or the result where there is no error. -/
def display (panel : Panel) : String := if panel.error = "" then panel.result else panel.error

/-- The changes to a panel. -/
inductive Command where
  | type (c : Char)
  | deleteLast
  | clear
  | fail (message : String)
  | succeed (result preview : String)
  | loseFocus
  deriving DecidableEq

def apply (panel : Panel) : Command → Panel
  | .type c => panel.type c
  | .deleteLast => panel.deleteLast
  | .clear => panel.clear
  | .fail message => panel.fail message
  | .succeed result preview => panel.succeed result preview
  | .loseFocus => panel.loseFocus

/-- The panel after a run of commands. -/
def run (panel : Panel) (commands : List Command) : Panel := commands.foldl apply panel

end Panel

end Calculator
