import Calculator.Proofs.Window.Sheet

/-!
# When Enter evaluates

Enter evaluates only in the frame after a pressed button. Behind any other step, such as a text typed into the entry, it
changes nothing.
-/

namespace Calculator

open Window (Step)

namespace Window

variable {steps : List Step}

def EndsInPress (steps : List Step) : Prop := ∃ before button, steps = before ++ [.press button]

/-- Without Enters among the steps the last step decides. -/
theorem focus_run_iff (h : ∀ step ∈ steps, step ≠ .enter ∧ step ≠ .escapeEnter) :
    (opened.run steps).panel.focus ↔ EndsInPress steps := by
  rw [focus_run, Sheet.isArmed_reverse]
  constructor
  · rintro ⟨before, last, enters, rfl, hlast⟩
    cases enters with
    | zero =>
        rcases hlast with rfl | ⟨button, rfl⟩
        · exact absurd rfl (h .escapeEnter (by simp)).2
        · exact ⟨before, button, rfl⟩
    | succ n => exact absurd rfl (h .enter (by simp)).1
  · rintro ⟨before, button, rfl⟩
    exact ⟨before, .press button, 0, rfl, .inr ⟨button, rfl⟩⟩

theorem panel_enter_of_focus {window : Window} (h : window.panel.focus) :
    (window.step .enter).panel = (window.step (.press .equals)).panel := by
  rw [panel_enter, if_pos h, panel_press]
  rfl

theorem panel_enter_of_no_focus {window : Window} (h : ¬window.panel.focus) :
    (window.step .enter).panel = window.panel := by
  rw [panel_enter, if_neg h]

theorem sheet_press_equals (window : Window) :
    (window.step (.press .equals)).panel.sheet = Sheet.evaluated window.panel.entry := by
  rw [panel_press, Panel.sheet_click]
  rfl

end Window

open Window (EndsInPress)

/-- Behind a run without Enters, Enter evaluates if the run ends in a pressed button, and else leaves the panel as it
is. So it shows what the entry evaluates to only after a pressed button, or where the panel showed just that before. -/
theorem enter_evaluates_iff (steps : List Step) (h : ∀ step ∈ steps, step ≠ .enter ∧ step ≠ .escapeEnter) :
    let window := Window.opened.run steps
    let shown := Sheet.evaluated window.panel.entry
    (EndsInPress steps → (window.step .enter).panel = (window.step (.press .equals)).panel) ∧
      (¬EndsInPress steps → (window.step .enter).panel = window.panel) ∧
      ((window.step .enter).panel.sheet = shown ↔ EndsInPress steps ∨ window.panel.sheet = shown) := by
  intro window shown
  have hfocus : window.panel.focus ↔ EndsInPress steps := Window.focus_run_iff h
  have hpress (hp : EndsInPress steps) := Window.panel_enter_of_focus (hfocus.mpr hp)
  have hother (hp : ¬EndsInPress steps) := Window.panel_enter_of_no_focus (mt hfocus.mp hp)
  refine ⟨hpress, hother, ?_⟩
  by_cases hp : EndsInPress steps
  · rw [hpress hp, Window.sheet_press_equals]
    simp [hp, shown]
  · rw [hother hp]
    simp [hp]

theorem enter_evaluates_iff_behind_digit :
    ((Window.opened.run [.setEntry "1+", .press (.digit 1)]).step .enter).panel.sheet =
      ⟨"1+1", "2", "", "1 + 1"⟩ := by
  have h := enter_evaluates_iff [.setEntry "1+", .press (.digit 1)] (by decide)
  rw [h.2.2.mpr (.inl ⟨[.setEntry "1+"], .digit 1, rfl⟩)]
  decide +kernel

/-- A text typed into the entry is not evaluated by Enter, though it can be. -/
theorem enter_behind_typed_text :
    let window := Window.opened.run [.setEntry "1+1"]
    window.panel.entry = "1+1" ∧ evaluate "1+1" = .ok "2" ∧ (window.step (.press .equals)).panel.result = "2" ∧
      (window.step .enter).panel.result = "" ∧
      (window.step .enter).panel.sheet ≠ Sheet.evaluated window.panel.entry := by
  decide +kernel

end Calculator
