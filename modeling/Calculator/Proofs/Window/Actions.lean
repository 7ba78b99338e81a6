import Calculator.Window.Run

/-!
# What a run does to the panel

Each step of a window comes to a few changes of its panel, in order. The panel after a run is what all the changes of
its steps make of the panel before.
-/

namespace Calculator

namespace Panel

/-- The changes that a window makes to its panel. An evaluation is of the entry as it stands then. -/
inductive Action where
  | clear
  | evaluate
  | type (c : Char)
  | deleteLast
  | setEntry (text : String)
  | loseFocus
  deriving DecidableEq

def act (panel : Panel) : Action → Panel
  | .clear => panel.clear
  | .evaluate => panel.evaluateEntry
  | .type c => panel.type c
  | .deleteLast => panel.deleteLast
  | .setEntry text => { panel with entry := text }
  | .loseFocus => panel.loseFocus

/-- The panel after all the changes, one after the other. -/
def acts (panel : Panel) (actions : List Action) : Panel := actions.foldl act panel

@[simp] theorem acts_nil (panel : Panel) : panel.acts [] = panel := rfl

@[simp] theorem acts_cons (panel : Panel) (action : Action) (actions : List Action) :
    panel.acts (action :: actions) = (panel.act action).acts actions := rfl

@[simp] theorem acts_append (panel : Panel) (before after : List Action) :
    panel.acts (before ++ after) = (panel.acts before).acts after := List.foldl_append

end Panel

open Panel (Action)

def Button.action : Button → Action
  | clear => .clear
  | delete => .deleteLast
  | equals => .evaluate
  | key k => .type k.symbol

namespace Panel

theorem click_eq (panel : Panel) (button : Button) : panel.click button = panel.act button.action := by
  cases button <;> rfl

/-! ## Frames -/

def escapeActions (escape : Bool) : List Action := if escape then [.clear] else []

/-- Enter evaluates only where the entry gets the keyboard. -/
def focusActions (enter : Bool) (panel : Panel) : List Action :=
  if panel.focus then .loseFocus :: (if enter then [.evaluate] else []) else []

def frameActions (panel : Panel) (input : Input) : List Action :=
  escapeActions input.escape ++ (panel.acts (escapeActions input.escape)).focusActions input.enter ++
    input.click.toList.map Button.action

theorem acts_escapeActions (panel : Panel) (escape : Bool) :
    panel.acts (escapeActions escape) = if escape then panel.clear else panel := by
  cases escape <;> rfl

theorem acts_focusActions (panel : Panel) (enter : Bool) :
    panel.acts (panel.focusActions enter) = panel.takeFocus enter := by
  unfold focusActions takeFocus
  split
  · cases enter <;> rfl
  · rfl

theorem frame_fst (panel : Panel) (input : Input) :
    (panel.frame input).1 = panel.acts (panel.frameActions input) := by
  obtain ⟨escape, enter, click⟩ := input
  simp only [frameActions, acts_append, acts_focusActions, acts_escapeActions]
  cases click with
  | none => rfl
  | some button => exact click_eq _ button

end Panel

/-! ## Runs -/

namespace Window

def stepActions (window : Window) : Step → List Action
  | .idle => window.panel.frameActions {}
  | .enter => window.panel.frameActions { enter := true }
  | .escape => window.panel.frameActions { escape := true }
  | .escapeEnter => window.panel.frameActions { escape := true, enter := true }
  | .setEntry text => .setEntry text :: (window.panel.act (.setEntry text)).frameActions {}
  | .press button =>
    window.panel.frameActions {} ++
      (window.panel.acts (window.panel.frameActions {})).frameActions { click := some button }

def actions (window : Window) : List Step → List Action
  | [] => []
  | step :: steps => window.stepActions step ++ (window.step step).actions steps

theorem panel_step (window : Window) (step : Step) :
    (window.step step).panel = window.panel.acts (window.stepActions step) := by
  cases step with
  | idle => exact Panel.frame_fst _ _
  | enter => exact Panel.frame_fst _ _
  | escape => exact Panel.frame_fst _ _
  | escapeEnter => exact Panel.frame_fst _ _
  | setEntry text => exact Panel.frame_fst _ _
  | press button =>
      rw [stepActions, Panel.acts_append, ← Panel.frame_fst, ← Panel.frame_fst]
      rfl

theorem panel_run (window : Window) (steps : List Step) :
    (window.run steps).panel = window.panel.acts (window.actions steps) := by
  induction steps generalizing window with
  | nil => rfl
  | cons step steps ih =>
      rw [actions, Panel.acts_append, ← panel_step]
      exact ih (window.step step)

end Window

end Calculator
