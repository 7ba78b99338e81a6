import Calculator.Proofs.Evaluation.Basic
import Calculator.Proofs.Token.Preview
import Calculator.Proofs.Window.Actions
import Mathlib.Data.List.Induction

/-!
# What the panel shows

The result, the error and the preview of a panel always come of the last evaluation since the entry was cleared, however
the entry has been changed after it. Without such an evaluation all three are empty.
-/

namespace Calculator

namespace Panel

/-- There is no evaluation behind the last clear, or none at all. -/
def Unevaluated (actions : List Action) : Prop :=
  .evaluate ∉ actions ∨ ∃ before after, actions = before ++ .clear :: after ∧ .evaluate ∉ after

/-- The last evaluation has no clear behind it, and was of this entry. -/
def LastEvaluated (start : Panel) (actions : List Action) (entry : String) : Prop :=
  ∃ before after, actions = before ++ .evaluate :: after ∧ .evaluate ∉ after ∧ .clear ∉ after ∧
    (start.acts before).entry = entry

structure ShowsNothing (panel : Panel) : Prop where
  result : panel.result = ""
  error : panel.error = ""
  preview : panel.preview = ""

structure ShowsError (panel : Panel) (entry : String) : Prop where
  evaluated : evaluate entry = .error panel.error
  error : panel.error ≠ ""
  result : panel.result = ""
  preview : panel.preview = ""

/-- The preview is of the tokens of the entry, and evaluates to the result when its spaces are taken out. -/
structure ShowsResult (panel : Panel) (entry : String) : Prop where
  evaluated : evaluate entry = .ok panel.result
  error : panel.error = ""
  result : panel.result ≠ ""
  tokens : ∃ tokens, tokenize entry = .ok tokens ∧ panel.preview = Token.join " " tokens
  preview : panel.preview ≠ ""
  again : evaluate (Text.withoutSpaces panel.preview) = .ok panel.result

variable {panel : Panel} {action : Action} {actions : List Action} {entry : String}

/-! ## Evaluations -/

theorem showsError_evaluateEntry {message : String} (h : evaluate panel.entry = .error message) :
    panel.evaluateEntry.ShowsError panel.entry := by
  have he : panel.evaluateEntry = panel.fail message := by rw [evaluateEntry, h]
  rw [he]
  exact ⟨h, ne_empty_of_evaluate_error h, rfl, rfl⟩

theorem showsResult_evaluateEntry {result : String} (h : evaluate panel.entry = .ok result) :
    panel.evaluateEntry.ShowsResult panel.entry := by
  obtain ⟨v, hv, _⟩ := evaluate_eq_ok.mp h
  obtain ⟨chain, ht, _⟩ := calculate_eq_ok.mp hv
  have hscan := Token.isScannable_of_tokenize ht
  have he : panel.evaluateEntry = panel.succeed result (Token.join " " chain.toTokens) := by
    rw [evaluateEntry, h, ht]
  have hagain := evaluate_congr ((Token.tokenize_withoutSpaces_join hscan).trans ht.symm)
  have hne : chain.toTokens ≠ [] := List.cons_ne_nil _ _
  rw [he]
  exact ⟨h, rfl, ne_empty_of_evaluate_ok h, ⟨_, ht, rfl⟩, Token.join_ne_empty hne, hagain.trans h⟩

theorem shows_evaluateEntry (panel : Panel) :
    panel.evaluateEntry.ShowsError panel.entry ∨ panel.evaluateEntry.ShowsResult panel.entry := by
  cases h : evaluate panel.entry with
  | error message => exact .inl (showsError_evaluateEntry h)
  | ok result => exact .inr (showsResult_evaluateEntry h)

/-! ## Runs of changes -/

/-- What the panel shows after the changes is accounted for by the last evaluation among them. -/
def ShowsLast (start : Panel) (actions : List Action) : Prop :=
  (Unevaluated actions ∧ (start.acts actions).ShowsNothing) ∨
    ∃ entry, LastEvaluated start actions entry ∧
      ((start.acts actions).ShowsError entry ∨ (start.acts actions).ShowsResult entry)

theorem Unevaluated.append (h : Unevaluated actions) (he : action ≠ .evaluate) :
    Unevaluated (actions ++ [action]) := by
  rcases h with h | ⟨before, after, rfl, h⟩
  · exact .inl (by simp [h, he.symm])
  · exact .inr ⟨before, after ++ [action], by simp, by simp [h, he.symm]⟩

theorem LastEvaluated.append {start : Panel} (h : LastEvaluated start actions entry) (hc : action ≠ .clear)
    (he : action ≠ .evaluate) : LastEvaluated start (actions ++ [action]) entry := by
  obtain ⟨before, after, rfl, h1, h2, h3⟩ := h
  exact ⟨before, after ++ [action], by simp, by simp [h1, he.symm], by simp [h2, hc.symm], h3⟩

/-- Only a clear and an evaluation change what is shown. -/
theorem act_of_other (hc : action ≠ .clear) (he : action ≠ .evaluate) :
    ∃ entry focus, panel.act action = { panel with entry, focus } := by
  cases action with
  | clear => exact absurd rfl hc
  | evaluate => exact absurd rfl he
  | type c => exact ⟨_, _, rfl⟩
  | deleteLast => exact ⟨_, _, rfl⟩
  | setEntry text => exact ⟨_, _, rfl⟩
  | loseFocus => exact ⟨_, _, rfl⟩

theorem ShowsLast.append {start : Panel} (h : ShowsLast start actions) (action : Action) :
    ShowsLast start (actions ++ [action]) := by
  unfold ShowsLast
  rw [acts_append, acts_cons, acts_nil]
  by_cases hc : action = .clear
  · subst hc
    exact .inl ⟨.inr ⟨actions, [], rfl, by simp⟩, ⟨rfl, rfl, rfl⟩⟩
  · by_cases he : action = .evaluate
    · subst he
      exact .inr ⟨_, ⟨actions, [], rfl, by simp, by simp, rfl⟩, shows_evaluateEntry _⟩
    · obtain ⟨entry', focus, hact⟩ := @act_of_other (start.acts actions) action hc he
      rw [hact]
      rcases h with ⟨hu, hn⟩ | ⟨entry, hl, hs | hs⟩
      · exact .inl ⟨hu.append he, ⟨hn.result, hn.error, hn.preview⟩⟩
      · exact .inr ⟨entry, hl.append hc he, .inl ⟨hs.evaluated, hs.error, hs.result, hs.preview⟩⟩
      · exact .inr ⟨entry, hl.append hc he,
          .inr ⟨hs.evaluated, hs.error, hs.result, hs.tokens, hs.preview, hs.again⟩⟩

theorem showsLast_acts {start : Panel} (h : start.ShowsNothing) (actions : List Action) :
    ShowsLast start actions := by
  induction actions using List.reverseRecOn with
  | nil => exact .inl ⟨.inl (by simp), h⟩
  | append_singleton actions action ih => exact ih.append action

end Panel

open Panel (Unevaluated LastEvaluated)

/-- A run of the window ends with a panel that shows nothing, and nothing has been evaluated since the last clear, or
with one that shows the error or the result of the last evaluation, whatever has become of the entry since. It never
ends in two of these ways. -/
theorem run_shows_last_evaluation (steps : List Window.Step) :
    let actions := Window.opened.actions steps
    let panel := (Window.opened.run steps).panel
    let nothing := Unevaluated actions ∧ panel.ShowsNothing
    let failed := ∃ entry, LastEvaluated Window.opened.panel actions entry ∧ panel.ShowsError entry
    let succeeded := ∃ entry, LastEvaluated Window.opened.panel actions entry ∧ panel.ShowsResult entry
    panel = Window.opened.panel.acts actions ∧
      (nothing ∨ failed ∨ succeeded) ∧ ¬(nothing ∧ failed) ∧ ¬(nothing ∧ succeeded) ∧ ¬(failed ∧ succeeded) ∧
      (panel.error ≠ "" → panel.result = "" ∧ panel.preview = "") := by
  intro actions panel nothing failed succeeded
  have hrun : panel = Window.opened.panel.acts actions := Window.panel_run _ _
  have hopened : Window.opened.panel.ShowsNothing := ⟨rfl, rfl, rfl⟩
  have hlast : nothing ∨ failed ∨ succeeded := by
    rcases Panel.showsLast_acts hopened actions with ⟨hu, hn⟩ | ⟨entry, hl, hs | hs⟩
    · exact .inl ⟨hu, hrun ▸ hn⟩
    · exact .inr (.inl ⟨entry, hl, hrun ▸ hs⟩)
    · exact .inr (.inr ⟨entry, hl, hrun ▸ hs⟩)
  refine ⟨hrun, hlast, ?_, ?_, ?_, ?_⟩
  · rintro ⟨⟨_, hn⟩, _, _, hf⟩
    exact hf.error hn.error
  · rintro ⟨⟨_, hn⟩, _, _, hs⟩
    exact hs.result hn.result
  · rintro ⟨⟨_, _, hf⟩, _, _, hs⟩
    exact hf.error hs.error
  · intro he
    rcases hlast with ⟨_, hn⟩ | ⟨_, _, hf⟩ | ⟨_, _, hs⟩
    · exact absurd hn.error he
    · exact ⟨hf.result, hf.preview⟩
    · exact absurd hs.error he

end Calculator
