import Calculator.Window.Run
import Mathlib.Data.List.Induction

/-!
# The window as a sheet of texts

Without its frames and its focus a window is a sheet of four texts, which each step changes in one go. Only Enter
depends on more than the sheet: it evaluates where the last step but for Enters was a pressed button, or Escape with
Enter.
-/

namespace Calculator

open Window (Step)

/-- The texts that a panel holds. -/
structure Sheet where
  entry : String := ""
  result : String := ""
  error : String := ""
  preview : String := ""
  deriving DecidableEq

namespace Sheet

def evaluated (entry : String) : Sheet :=
  match evaluate entry with
  | .ok result => { entry, result, preview := (tokenize entry).toOption.elim "" (Token.join " ") }
  | .error error => { entry, error }

def press (sheet : Sheet) : Button → Sheet
  | .clear => {}
  | .delete => { sheet with entry := String.ofList sheet.entry.toList.dropLast }
  | .equals => evaluated sheet.entry
  | .key k => { sheet with entry := sheet.entry ++ (Button.key k).label }

/-- The panel with these texts, once it is to get the keyboard. -/
def focused (sheet : Sheet) : Panel := ⟨sheet.entry, sheet.result, sheet.error, sheet.preview, true⟩

/-- Whether Enter evaluates after these steps, of which the newest comes first. -/
def isArmed (history : List Step) : Bool :=
  match history.find? (· ≠ .enter) with
  | some (.press _) | some .escapeEnter => true
  | _ => false

def step (history : List Step) (sheet : Sheet) : Step → Sheet
  | .idle => sheet
  | .enter => if isArmed history then evaluated sheet.entry else sheet
  | .escape => {}
  | .escapeEnter => evaluated ""
  | .setEntry text => { sheet with entry := text }
  | .press button => sheet.press button

/-- The sheet after these steps, of which the newest comes first. -/
def after : List Step → Sheet
  | [] => {}
  | step :: history => (after history).step history step

theorem entry_evaluated (entry : String) : (evaluated entry).entry = entry := by
  unfold evaluated
  cases evaluate entry with
  | error message => rfl
  | ok result => rfl

/-! ## Histories -/

theorem find?_reverse_eq_some {steps : List Step} {last : Step} :
    steps.reverse.find? (· ≠ .enter) = some last ↔
      last ≠ .enter ∧ ∃ before enters, steps = before ++ last :: List.replicate enters .enter := by
  rw [List.find?_eq_some_iff_append, decide_eq_true_eq]
  refine and_congr_right fun _ => ?_
  constructor
  · rintro ⟨after, before, hs, hafter⟩
    have henters : after.reverse = List.replicate after.length .enter :=
      List.eq_replicate_iff.mpr ⟨List.length_reverse, by simpa using hafter⟩
    refine ⟨before.reverse, after.length, ?_⟩
    rw [← henters, ← List.reverse_inj, hs]
    simp
  · rintro ⟨before, enters, rfl⟩
    exact ⟨List.replicate enters .enter, before.reverse, by simp, by simp⟩

theorem isArmed_reverse {steps : List Step} :
    isArmed steps.reverse ↔
      ∃ before last enters, steps = before ++ last :: List.replicate enters .enter ∧
        (last = .escapeEnter ∨ ∃ button, last = .press button) := by
  constructor
  · intro h
    unfold isArmed at h
    split at h
    · rename_i button hfind
      obtain ⟨_, before, enters, hs⟩ := find?_reverse_eq_some.mp hfind
      exact ⟨before, _, enters, hs, .inr ⟨button, rfl⟩⟩
    · rename_i hfind
      obtain ⟨_, before, enters, hs⟩ := find?_reverse_eq_some.mp hfind
      exact ⟨before, _, enters, hs, .inl rfl⟩
    · cases h
  · rintro ⟨before, last, enters, hs, hlast⟩
    have hne : last ≠ .enter := by
      rintro rfl
      rcases hlast with h | ⟨_, h⟩ <;> cases h
    unfold isArmed
    rw [find?_reverse_eq_some.mpr ⟨hne, before, enters, hs⟩]
    rcases hlast with rfl | ⟨button, rfl⟩
    · rfl
    · rfl

end Sheet

open Sheet (isArmed)

/-! ## Panels -/

namespace Panel

def sheet (panel : Panel) : Sheet := ⟨panel.entry, panel.result, panel.error, panel.preview⟩

theorem evaluateEntry_eq (panel : Panel) : panel.evaluateEntry = (Sheet.evaluated panel.entry).focused := by
  unfold evaluateEntry Sheet.evaluated
  cases evaluate panel.entry with
  | error message => rfl
  | ok result => cases tokenize panel.entry with
      | error e => rfl
      | ok tokens => rfl

theorem sheet_evaluateEntry (panel : Panel) : panel.evaluateEntry.sheet = Sheet.evaluated panel.entry :=
  congrArg sheet panel.evaluateEntry_eq

theorem focus_evaluateEntry (panel : Panel) : panel.evaluateEntry.focus :=
  congrArg focus panel.evaluateEntry_eq

theorem entry_evaluateEntry (panel : Panel) : panel.evaluateEntry.entry = panel.entry :=
  (congrArg entry panel.evaluateEntry_eq).trans (Sheet.entry_evaluated _)

theorem sheet_click (panel : Panel) (button : Button) : (panel.click button).sheet = panel.sheet.press button := by
  cases button with
  | clear => rfl
  | delete => rfl
  | equals => exact panel.sheet_evaluateEntry
  | key k => rw [click, type, sheet, String.push_eq_append]; rfl

theorem focus_click (panel : Panel) (button : Button) : (panel.click button).focus := by
  cases button with
  | clear => rfl
  | delete => rfl
  | equals => exact panel.focus_evaluateEntry
  | key k => rfl

/-- Without Enter a frame only takes the focus away. -/
theorem takeFocus_false (panel : Panel) : panel.takeFocus false = panel.loseFocus := by
  obtain ⟨entry, result, error, preview, focus⟩ := panel
  cases focus with
  | false => rfl
  | true => rfl

end Panel

/-! ## Steps -/

namespace Window

variable {window : Window} {history : List Step}

theorem panel_idle (window : Window) : (window.step .idle).panel = window.panel.loseFocus :=
  window.panel.takeFocus_false

theorem panel_enter (window : Window) :
    (window.step .enter).panel =
      if window.panel.focus then window.panel.loseFocus.evaluateEntry else window.panel := rfl

theorem panel_escape (window : Window) : (window.step .escape).panel = ({} : Panel).loseFocus := rfl

theorem panel_escapeEnter (window : Window) :
    (window.step .escapeEnter).panel = ({} : Panel).loseFocus.evaluateEntry := rfl

theorem panel_setEntry (window : Window) (text : String) :
    (window.step (.setEntry text)).panel = { window.panel with entry := text, focus := false } :=
  Panel.takeFocus_false _

theorem panel_press (window : Window) (button : Button) :
    (window.step (.press button)).panel = window.panel.loseFocus.click button := by
  change ((window.panel.takeFocus false).takeFocus false).click button = _
  -- The frame before the click has taken the focus, so the frame with the click finds none.
  rw [Panel.takeFocus_false, Panel.takeFocus_false]
  rfl

theorem focus_step (h : window.panel.focus = isArmed history) (step : Step) :
    (window.step step).panel.focus = isArmed (step :: history) := by
  cases step with
  | idle => rw [panel_idle]; rfl
  | enter =>
      have hkeep : isArmed (.enter :: history) = isArmed history := rfl
      rw [panel_enter, hkeep]
      split
      · rename_i hf
        rw [Panel.focus_evaluateEntry, ← h, hf]
      · exact h
  | escape => rw [panel_escape]; rfl
  | escapeEnter => rw [panel_escapeEnter, Panel.focus_evaluateEntry]; rfl
  | setEntry text => rw [panel_setEntry]; rfl
  | press button => rw [panel_press, Panel.focus_click]; rfl

theorem sheet_step (h : window.panel.focus = isArmed history) (step : Step) :
    (window.step step).panel.sheet = window.panel.sheet.step history step := by
  cases step with
  | idle => rw [panel_idle]; rfl
  | enter =>
      rw [panel_enter, Sheet.step, h]
      split
      · exact Panel.sheet_evaluateEntry _
      · rfl
  | escape => rw [panel_escape]; rfl
  | escapeEnter => rw [panel_escapeEnter, Panel.sheet_evaluateEntry]; rfl
  | setEntry text => rw [panel_setEntry]; rfl
  | press button => rw [panel_press, Panel.sheet_click]; rfl

/-! ## Runs -/

theorem run_append (window : Window) (before after : List Step) :
    window.run (before ++ after) = (window.run before).run after :=
  List.foldl_append

theorem run_concat (window : Window) (steps : List Step) (step : Step) :
    window.run (steps ++ [step]) = (window.run steps).step step :=
  window.run_append steps [step]

theorem focus_run (steps : List Step) : (opened.run steps).panel.focus = isArmed steps.reverse := by
  induction steps using List.reverseRecOn with
  | nil => rfl
  | append_singleton steps step ih =>
      rw [run_concat, List.reverse_concat]
      exact focus_step ih step

theorem sheet_run (steps : List Step) : (opened.run steps).panel.sheet = Sheet.after steps.reverse := by
  induction steps using List.reverseRecOn with
  | nil => rfl
  | append_singleton steps step ih =>
      rw [run_concat, List.reverse_concat, Sheet.after, ← ih]
      exact sheet_step (focus_run steps) step

/-! ## Enters in a row -/

theorem draw_enter_congr {panel other : Panel} (h : panel.entry = other.entry) (hp : panel.focus)
    (ho : other.focus) : draw panel { enter := true } = draw other { enter := true } := by
  have he : panel.loseFocus.evaluateEntry = other.loseFocus.evaluateEntry := by
    rw [Panel.evaluateEntry_eq, Panel.evaluateEntry_eq]
    exact congrArg (fun entry => (Sheet.evaluated entry).focused) h
  simp [draw, Panel.frame, Panel.takeFocus, Panel.entryText, hp, ho, he, h]

theorem step_enter_enter (window : Window) : (window.step .enter).step .enter = window.step .enter := by
  cases hf : window.panel.focus with
  | false =>
      have hp : (window.step .enter).panel = window.panel := by
        rw [panel_enter, hf]
        rfl
      rw [step, hp]
      rfl
  | true =>
      have hp : (window.step .enter).panel = window.panel.loseFocus.evaluateEntry := by
        rw [panel_enter, hf]
        rfl
      rw [step, hp]
      exact draw_enter_congr (Panel.entry_evaluateEntry _) (Panel.focus_evaluateEntry _) hf

theorem run_replicate_enter (window : Window) (n : Nat) :
    window.run (List.replicate (n + 1) .enter) = window.step .enter := by
  induction n generalizing window with
  | zero => rfl
  | succ n ih =>
      rw [List.replicate_succ]
      exact (ih (window.step .enter)).trans window.step_enter_enter

end Window

/-- The texts of the window are those of the sheet after the same steps. The entry is to get the keyboard where Enter
would evaluate, and several Enters in a row come to one. -/
theorem run_as_sheet (steps : List Step) :
    (Window.opened.run steps).panel.sheet = Sheet.after steps.reverse ∧
      ((Window.opened.run steps).panel.focus ↔
        ∃ before last enters, steps = before ++ last :: List.replicate enters .enter ∧
          (last = .escapeEnter ∨ ∃ button, last = .press button)) ∧
      ∀ n, Window.opened.run (steps ++ List.replicate (n + 1) .enter) = Window.opened.run (steps ++ [.enter]) := by
  refine ⟨Window.sheet_run steps, ?_, ?_⟩
  · rw [Window.focus_run]
    exact Sheet.isArmed_reverse
  · intro n
    rw [Window.run_append, Window.run_replicate_enter, Window.run_concat]

end Calculator
