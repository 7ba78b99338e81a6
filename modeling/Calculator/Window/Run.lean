import Calculator.Window.Frame

/-!
# Runs of the window

A window is opened and then used step by step. Each step takes one frame, but pressing a button takes two,
one before the click and one with it.
-/

namespace Calculator

/-- A panel and the texts of the last frame. -/
structure Window where
  panel : Panel
  painted : List String
  deriving DecidableEq

namespace Window

inductive Step where
  | idle
  | enter
  | escape
  | escapeEnter
  /-- The entry is replaced from outside the window. -/
  | setEntry (text : String)
  | press (button : Button)
  deriving DecidableEq

def draw (panel : Panel) (input : Input) : Window :=
  let (panel, texts) := panel.frame input
  ⟨panel, texts⟩

/-- The first two frames of a window pass without input. -/
def opened : Window := draw (draw {} {}).panel {}

def step (window : Window) : Step → Window
  | .idle => draw window.panel {}
  | .enter => draw window.panel { enter := true }
  | .escape => draw window.panel { escape := true }
  | .escapeEnter => draw window.panel { escape := true, enter := true }
  | .setEntry text => draw { window.panel with entry := text } {}
  | .press button => draw (draw window.panel {}).panel { click := some button }

/-- The window after a run of steps. -/
def run (window : Window) (steps : List Step) : Window := steps.foldl step window

end Window

end Calculator
