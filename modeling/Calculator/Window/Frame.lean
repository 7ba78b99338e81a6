import Calculator.Evaluation
import Calculator.Panel
import Calculator.Window.Keypad

/-!
# Frames

The window is drawn frame by frame. A frame takes the input since the last one, changes the panel, and
paints texts from top to bottom as it goes. So a click, which acts when all is painted, shows only in the
next frame.
-/

namespace Calculator

namespace Panel

/-- Evaluates the entry, which stays as it is. -/
def evaluateEntry (panel : Panel) : Panel :=
  match evaluate panel.entry with
  | .ok result =>
    let preview := match tokenize panel.entry with
      | .ok tokens => Token.join " " tokens
      | .error _ => ""
    panel.succeed result preview
  | .error message => panel.fail message

def click (panel : Panel) : Button → Panel
  | .clear => panel.clear
  | .delete => panel.deleteLast
  | .equals => panel.evaluateEntry
  | .key k => panel.type k.symbol

end Panel

/-- What the user did since the last frame. -/
structure Input where
  escape : Bool := false
  enter : Bool := false
  click : Option Button := none
  deriving DecidableEq

namespace Panel

def title : String := "Calculatrice"

/-- Stands in an empty entry. -/
def hint : String := "Ex: 2+3*4, 10/2-3"

def entryText (panel : Panel) : String := if panel.entry = "" then hint else panel.entry

/-- The texts under the entry. -/
def outcomeTexts (panel : Panel) : List String :=
  [panel.display, if panel.preview = "" then "" else "Jetons : " ++ panel.preview].filter (· ≠ "")

/-- Gives the entry the keyboard if it is to have it. Enter counts only then, because an entry that had the
keyboard before gives it up on Enter. -/
def takeFocus (enter : Bool) (panel : Panel) : Panel :=
  if panel.focus then
    if enter then panel.loseFocus.evaluateEntry else panel.loseFocus
  else
    panel

/-- The panel after a frame, and the texts that the frame painted. -/
def frame (panel : Panel) (input : Input) : Panel × List String :=
  let cleared := if input.escape then panel.clear else panel
  let focused := cleared.takeFocus input.enter
  let texts := title :: cleared.entryText :: focused.outcomeTexts ++ Button.all.map Button.label
  (input.click.elim focused focused.click, texts)

end Panel

end Calculator
