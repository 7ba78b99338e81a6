import Calculator.Panel
import Mathlib.Data.List.Induction

/-!
# Runs of commands

The commands that edit the entry make it, and the last failure or success makes what stands under it. Neither kind of
command touches what the other makes, and only a clear ends both.
-/

namespace Calculator

namespace Panel

/-! ## What commands are for -/

/-- A change at the end of a text, or the end of the text. -/
inductive Edit where
  | append (c : Char)
  | removeLast
  | erase
  deriving DecidableEq

/-- Nothing can be removed from the empty text. -/
def Edit.apply (text : List Char) : Edit → List Char
  | append c => text ++ [c]
  | removeLast => text.dropLast
  | erase => []

namespace Command

/-- What the command does to the entry, if it has to do with it. -/
def edit? : Command → Option Edit
  | type c => some (.append c)
  | deleteLast => some .removeLast
  | clear => some .erase
  | fail _ => none
  | succeed _ _ => none
  | loseFocus => none

def isTyping : Command → Bool
  | type _ | deleteLast => true
  | _ => false

def isOutcome : Command → Bool
  | fail _ | succeed _ _ => true
  | _ => false

end Command

/-- The text and the preview under the entry. -/
def shown (panel : Panel) : String × String := (panel.display, panel.preview)

/-- What is shown after these commands, of which the newest comes first: the newest failure or success that has not been
cleared. -/
def shownAfter : List Command → String × String
  | [] => ("", "")
  | .clear :: _ => ("", "")
  | .fail message :: _ => (message, "")
  | .succeed result preview :: _ => (result, preview)
  | _ :: history => shownAfter history

/-- There is nothing beside an error. -/
def ErrorAlone (panel : Panel) : Prop := panel.error = "" ∨ panel.result = "" ∧ panel.preview = ""

variable {panel : Panel} {command : Command} {commands : List Command}

theorem run_concat (panel : Panel) (commands : List Command) (command : Command) :
    panel.run (commands ++ [command]) = (panel.run commands).apply command :=
  List.foldl_append

/-! ## The entry -/

theorem entry_apply (panel : Panel) (command : Command) :
    (panel.apply command).entry.toList = command.edit?.elim panel.entry.toList (Edit.apply panel.entry.toList) := by
  cases command with
  | type c => exact String.toList_push c
  | deleteLast => exact String.toList_ofList
  | clear => rfl
  | fail message => rfl
  | succeed result preview => rfl
  | loseFocus => rfl

theorem entry_run (panel : Panel) (commands : List Command) :
    (panel.run commands).entry.toList = (commands.filterMap Command.edit?).foldl Edit.apply panel.entry.toList := by
  induction commands generalizing panel with
  | nil => rfl
  | cons command commands ih =>
      have hrun := ih (panel.apply command)
      rw [entry_apply] at hrun
      cases he : command.edit? with
      | none =>
          rw [he] at hrun
          rwa [List.filterMap_cons_none he]
      | some edit =>
          rw [he] at hrun
          rwa [List.filterMap_cons_some he]

theorem filterMap_edit?_outcomes (commands : List Command) :
    (commands.filter (!·.isOutcome)).filterMap Command.edit? = commands.filterMap Command.edit? := by
  rw [List.filterMap_filter]
  congr 1
  funext command
  cases command <;> rfl

theorem entry_run_filter (panel : Panel) (commands : List Command) :
    (panel.run (commands.filter (!·.isOutcome))).entry = (panel.run commands).entry := by
  rw [← String.toList_inj, entry_run, entry_run, filterMap_edit?_outcomes]

/-! ## Under the entry -/

theorem display_fail (panel : Panel) (message : String) : (panel.fail message).display = message := by
  unfold display
  split
  · rename_i hempty
    exact hempty.symm
  · rfl

theorem shown_run (commands : List Command) :
    (({} : Panel).run commands).shown = shownAfter commands.reverse := by
  induction commands using List.reverseRecOn with
  | nil => rfl
  | append_singleton commands command ih =>
      rw [run_concat, List.reverse_concat]
      cases command with
      | type c => exact ih
      | deleteLast => exact ih
      | clear => rfl
      | fail message => exact congrArg (·, "") (display_fail _ message)
      | succeed result preview => rfl
      | loseFocus => exact ih

theorem shownAfter_filter (history : List Command) :
    shownAfter (history.filter (!·.isTyping)) = shownAfter history := by
  induction history with
  | nil => rfl
  | cons command history ih => cases command with
      | type c => exact ih
      | deleteLast => exact ih
      | clear => rfl
      | fail message => rfl
      | succeed result preview => rfl
      | loseFocus => exact ih

theorem shown_run_filter (commands : List Command) :
    (({} : Panel).run (commands.filter (!·.isTyping))).shown = (({} : Panel).run commands).shown := by
  rw [shown_run, shown_run, ← List.filter_reverse, shownAfter_filter]

/-! ## Errors stand alone -/

theorem ErrorAlone.apply (h : panel.ErrorAlone) (command : Command) : (panel.apply command).ErrorAlone := by
  cases command with
  | type c => exact h
  | deleteLast => exact h
  | clear => exact .inl rfl
  | fail message => exact .inr ⟨rfl, rfl⟩
  | succeed result preview => exact .inl rfl
  | loseFocus => exact h

theorem ErrorAlone.run (h : panel.ErrorAlone) (commands : List Command) : (panel.run commands).ErrorAlone := by
  induction commands generalizing panel with
  | nil => exact h
  | cons command commands ih => exact ih (h.apply command)

end Panel

open Panel (Command Edit shownAfter)

/-- After any run of commands the entry is what the edits alone make of the empty text, and under it stands the last
failure or success since the last clear. Each stays the same if the commands of the other are left out. -/
theorem run_by_edits_and_outcomes (commands : List Command) :
    let panel := ({} : Panel).run commands
    let withoutOutcomes := ({} : Panel).run (commands.filter (!·.isOutcome))
    let withoutTyping := ({} : Panel).run (commands.filter (!·.isTyping))
    panel.entry.toList = (commands.filterMap Command.edit?).foldl Edit.apply [] ∧
      withoutOutcomes.entry = panel.entry ∧
      (panel.display, panel.preview) = shownAfter commands.reverse ∧
      (withoutTyping.display, withoutTyping.preview) = (panel.display, panel.preview) ∧
      (panel.error = "" ∨ panel.result = "" ∧ panel.preview = "") := by
  intro panel withoutOutcomes withoutTyping
  have halone : panel.ErrorAlone := Panel.ErrorAlone.run (.inl rfl) commands
  exact ⟨Panel.entry_run {} commands, Panel.entry_run_filter {} commands, Panel.shown_run commands,
    Panel.shown_run_filter commands, halone⟩

end Calculator
