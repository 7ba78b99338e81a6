import Calculator.Proofs.Panel
import Calculator.Proofs.Window.Actions
import Calculator.Proofs.Window.Sheet

/-!
# What a window paints

A frame paints the panel as it stands once the frame has settled, that is after Escape and Enter and before a click.
So a window shows its own panel but for the effect of a click, and an error stands alone wherever it is painted.
-/

namespace Calculator

open Window (Step)

namespace Panel

variable {panel : Panel} {input : Input}

/-! ## The screen of a panel -/

/-- What the buttons say, in the order in which they are painted. -/
def labels : List String :=
  ["C", "DEL", "7", "8", "9", "/", "4", "5", "6", "*", "1", "2", "3", "-", "0", ".", "=", "+"]

def render (panel : Panel) : List String :=
  [title, if panel.entry = "" then hint else panel.entry] ++
    (if panel.display = "" then [] else [panel.display]) ++
    (if panel.preview = "" then [] else ["Jetons : " ++ panel.preview]) ++ labels

theorem map_label_all : Button.all.map Button.label = labels := by decide

theorem outcomeTexts_eq (panel : Panel) :
    panel.outcomeTexts =
      (if panel.display = "" then [] else [panel.display]) ++
        (if panel.preview = "" then [] else ["Jetons : " ++ panel.preview]) := by
  have hjoin : "Jetons : " ++ panel.preview ≠ "" := by
    intro h
    exact absurd (String.append_eq_empty_iff.mp h).1 (by decide)
  unfold outcomeTexts
  by_cases hd : panel.display = ""
  · by_cases hp : panel.preview = ""
    · simp [hd, hp]
    · simp [hd, hp, hjoin]
  · by_cases hp : panel.preview = ""
    · simp [hd, hp]
    · simp [hd, hp, hjoin]

theorem render_loseFocus (panel : Panel) : panel.loseFocus.render = panel.render := rfl

/-! ## Frames -/

/-- The panel that a frame leaves but for a click. -/
def settle (panel : Panel) (input : Input) : Panel := (panel.frame { input with click := none }).1

theorem takeFocus_entry (panel : Panel) (enter : Bool) : (panel.takeFocus enter).entry = panel.entry := by
  unfold takeFocus
  split
  · split
    · exact entry_evaluateEntry _
    · rfl
  · rfl

theorem frame_snd (panel : Panel) (input : Input) : (panel.frame input).2 = (panel.settle input).render := by
  unfold settle frame
  dsimp only [Option.elim_none]
  -- The entry is painted before Enter counts and the rest after it, but Enter leaves the entry as it is.
  rw [outcomeTexts_eq, map_label_all, render, takeFocus_entry, entryText]
  simp

theorem settle_of_no_click (h : input.click = none) : panel.settle input = (panel.frame input).1 := by
  rw [settle, ← h]

/-! ## Errors stand alone -/

theorem ErrorAlone.evaluateEntry (panel : Panel) : panel.evaluateEntry.ErrorAlone := by
  unfold Panel.evaluateEntry
  cases evaluate panel.entry with
  | error message => exact .inr ⟨rfl, rfl⟩
  | ok result => exact .inl rfl

theorem ErrorAlone.act (h : panel.ErrorAlone) (action : Action) : (panel.act action).ErrorAlone := by
  cases action with
  | clear => exact .inl rfl
  | evaluate => exact ErrorAlone.evaluateEntry panel
  | type c => exact h
  | deleteLast => exact h
  | setEntry text => exact h
  | loseFocus => exact h

theorem ErrorAlone.acts (h : panel.ErrorAlone) (actions : List Action) : (panel.acts actions).ErrorAlone := by
  induction actions generalizing panel with
  | nil => exact h
  | cons action actions ih => exact ih (h.act action)

theorem ErrorAlone.frame (h : panel.ErrorAlone) (input : Input) : (panel.frame input).1.ErrorAlone := by
  rw [frame_fst]
  exact h.acts _

theorem ErrorAlone.render (h : panel.ErrorAlone) :
    panel.error = "" ∨
      panel.render = title :: (if panel.entry = "" then hint else panel.entry) :: panel.error :: labels := by
  by_cases he : panel.error = ""
  · exact .inl he
  · obtain ⟨_, hp⟩ := h.resolve_left he
    refine .inr ?_
    simp [Panel.render, display, he, hp]

end Panel

/-! ## The frames of a run -/

namespace Window

/-- A frame with the panel that it starts from. -/
structure Frame where
  start : Panel
  input : Input

namespace Frame

def window (frame : Frame) : Window := draw frame.start frame.input

def settled (frame : Frame) : Panel := frame.start.settle frame.input

theorem painted_window (frame : Frame) : frame.window.painted = frame.settled.render :=
  Panel.frame_snd _ _

end Frame

/-- The frames that pass without input when the window opens. -/
def openingFrames : List Frame := [⟨{}, {}⟩, ⟨(draw {} {}).panel, {}⟩]

def stepFrames (window : Window) : Step → List Frame
  | .idle => [⟨window.panel, {}⟩]
  | .enter => [⟨window.panel, { enter := true }⟩]
  | .escape => [⟨window.panel, { escape := true }⟩]
  | .escapeEnter => [⟨window.panel, { escape := true, enter := true }⟩]
  | .setEntry text => [⟨{ window.panel with entry := text }, {}⟩]
  | .press button => [⟨window.panel, {}⟩, ⟨(draw window.panel {}).panel, { click := some button }⟩]

/-- All the frames of a run, in order. -/
def frames (window : Window) : List Step → List Frame
  | [] => []
  | step :: steps => window.stepFrames step ++ (window.step step).frames steps

variable {window : Window} {steps : List Step} {step : Step}

theorem getLast?_stepFrames (window : Window) (step : Step) :
    (window.stepFrames step).getLast?.map Frame.window = some (window.step step) := by
  cases step <;> rfl

theorem getLast?_frames {opening : List Frame} (h : opening.getLast?.map Frame.window = some window)
    (steps : List Step) : (opening ++ window.frames steps).getLast?.map Frame.window = some (window.run steps) := by
  induction steps generalizing opening window with
  | nil => rw [frames, List.append_nil]; exact h
  | cons step steps ih =>
      have hlast := window.getLast?_stepFrames step
      rw [frames, ← List.append_assoc]
      refine ih ?_
      rw [List.getLast?_append]
      cases hl : (window.stepFrames step).getLast? with
      | none => rw [hl] at hlast; cases hlast
      | some frame => rw [hl] at hlast; exact hlast

theorem errorAlone_step (h : window.panel.ErrorAlone) (step : Step) : (window.step step).panel.ErrorAlone := by
  rw [panel_step]
  exact h.acts _

theorem errorAlone_start_of_step (h : window.panel.ErrorAlone) :
    ∀ frame ∈ window.stepFrames step, frame.start.ErrorAlone := by
  cases step with
  | press button => exact List.forall_mem_cons.mpr ⟨h, List.forall_mem_singleton.mpr (h.frame {})⟩
  | setEntry text => exact List.forall_mem_singleton.mpr (h.act (.setEntry text))
  | _ => exact List.forall_mem_singleton.mpr h

theorem errorAlone_start (h : window.panel.ErrorAlone) :
    ∀ frame ∈ window.frames steps, frame.start.ErrorAlone := by
  induction steps generalizing window with
  | nil => simp [frames]
  | cons step steps ih =>
      intro frame hf
      rcases List.mem_append.mp hf with hf | hf
      · exact errorAlone_start_of_step h frame hf
      · exact ih (errorAlone_step h step) frame hf

theorem errorAlone_start_of_opening : ∀ frame ∈ openingFrames, frame.start.ErrorAlone := by
  simp only [openingFrames, List.forall_mem_cons]
  exact ⟨.inl rfl, .inl rfl, by simp⟩

/-! ## Painted texts of a step -/

theorem painted_draw (panel : Panel) {input : Input} (h : input.click = none) :
    (draw panel input).painted = (draw panel input).panel.render := by
  have hp := Frame.painted_window ⟨panel, input⟩
  rwa [Frame.settled, Panel.settle_of_no_click h] at hp

theorem painted_step (h : ∀ button, step ≠ .press button) :
    (window.step step).painted = (window.step step).panel.render := by
  cases step with
  | press button => exact absurd rfl (h button)
  | _ => exact painted_draw _ rfl

theorem painted_press (window : Window) (button : Button) :
    (window.step (.press button)).painted = window.panel.render := by
  have hidle : (draw window.panel {}).panel = window.panel.loseFocus := window.panel_idle
  have hclick := Frame.painted_window ⟨window.panel.loseFocus, { click := some button }⟩
  have hsettled : window.panel.loseFocus.settle { click := some button } = window.panel.loseFocus :=
    Panel.takeFocus_false window.panel.loseFocus
  rw [step, hidle]
  rwa [Frame.settled, hsettled, Panel.render_loseFocus] at hclick

end Window

/-- After a step a window shows its panel as it is, or as it was before the button of the step was pressed. Each frame
paints the panel once settled, and nothing but the error under the entry if there is one. -/
theorem paints_panel (steps : List Step) :
    (∀ step, (Window.opened.run (steps ++ [step])).painted =
      match step with
      | .press _ => (Window.opened.run steps).panel.render
      | _ => (Window.opened.run (steps ++ [step])).panel.render) ∧
    let frames := Window.openingFrames ++ Window.opened.frames steps
    frames.getLast?.map Window.Frame.window = some (Window.opened.run steps) ∧
      ∀ frame ∈ frames,
        frame.window.painted = frame.settled.render ∧
          (frame.settled.error = "" ∨
            frame.window.painted =
              Panel.title :: frame.settled.entryText :: frame.settled.error :: Panel.labels) := by
  refine ⟨?_, Window.getLast?_frames rfl steps, ?_⟩
  · intro step
    rw [Window.run_concat]
    split
    · exact Window.painted_press _ _
    · rename_i hother
      exact Window.painted_step hother
  · intro frame hf
    have hstart : frame.start.ErrorAlone := by
      rcases List.mem_append.mp hf with hf | hf
      · exact Window.errorAlone_start_of_opening frame hf
      · exact Window.errorAlone_start (.inl rfl) frame hf
    have hpainted := frame.painted_window
    refine ⟨hpainted, ?_⟩
    rw [hpainted]
    exact (hstart.frame _).render

end Calculator
