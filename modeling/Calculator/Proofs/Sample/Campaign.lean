import Calculator.Proofs.Evaluation.Basic
import Calculator.Sample.Campaign

/-!
# What the campaigns try

The laws of the campaigns in terms of the evaluation, and a whole campaign in terms of its samples.
-/

namespace Calculator

variable {s : String} {tokens : List Token}

theorem Logged.value_bind {α β : Type} (x : Logged α) (f : α → Logged β) : (x >>= f).value = (f x.value).value := rfl

theorem Logged.value_all {α : Type} {check : α → Logged Bool} {samples : List α} :
    (Logged.all check samples).value = true ↔ ∀ a ∈ samples, (check a).value = true := by
  induction samples with
  | nil => simp [Logged.all, pure]
  | cons a rest ih =>
      rw [List.forall_mem_cons, ← ih, Logged.all, value_bind]
      cases (check a).value with
      | true => simp
      | false => simp [pure]

namespace Campaign

theorem value_agrees :
    (agrees tokens).value = true ↔
      ∃ v, calculate (Token.join "" tokens) = .ok v ∧ v.sameNumber (SinglePass.value tokens) := by
  unfold agrees calculate
  rw [Logged.value_bind]
  cases (Logged.calculate (Token.join "" tokens)).value with
  | ok v => simp [pure]
  | error e => simp [pure]

theorem rereads_iff : rereads tokens ↔ tokenize (Token.join "" tokens) = .ok tokens := by
  unfold rereads
  cases tokenize (Token.join "" tokens) with
  | ok again => simp
  | error e => simp

/-- An evaluation leaves nothing behind that a second one could see. -/
theorem value_repeats (s : String) : (repeats s).value = true := by
  unfold repeats
  rw [Logged.value_bind, Logged.value_bind]
  cases (Logged.evaluate s).value with
  | ok a => simp [pure]
  | error e => simp [pure]

theorem value_staysInRange : (staysInRange s).value = true ↔ calculate s ≠ .error .outOfRange := by
  have hfinite {v : Double} (h : calculate s = .ok v) : v.isFinite := isFinite_of_calculate h
  unfold calculate at hfinite
  unfold staysInRange calculate
  rw [Logged.value_bind]
  cases hc : (Logged.calculate s).value with
  | ok v => simp [pure, hfinite hc]
  | error e => cases e <;> simp [pure, EvalError.kind]

end Campaign

end Calculator
