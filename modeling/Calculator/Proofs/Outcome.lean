import Calculator.Error

/-!
# Outcomes

Computations that end in a value or in an error: what a sequence of them gives, and where it fails.
-/

namespace Calculator

variable {α β γ ε : Type}

namespace Outcome

@[simp] theorem ok_bind (a : α) (f : α → Except ε β) : (Except.ok a >>= f) = f a := rfl

@[simp] theorem error_bind (e : ε) (f : α → Except ε β) : (Except.error e >>= f) = .error e := rfl

@[simp] theorem pure_eq (a : α) : (pure a : Except ε α) = .ok a := rfl

@[simp] theorem bind_ok (x : Except ε α) : (x >>= fun a => .ok a) = x := bind_pure x

theorem bind_eq_ok {x : Except ε α} {f : α → Except ε β} {b : β} :
    (x >>= f) = .ok b ↔ ∃ a, x = .ok a ∧ f a = .ok b := by
  cases x with
  | ok a => simp
  | error e => simp

theorem bind_eq_error {x : Except ε α} {f : α → Except ε β} {e : ε} :
    (x >>= f) = .error e ↔ x = .error e ∨ ∃ a, x = .ok a ∧ f a = .error e := by
  cases x with
  | ok a => simp
  | error e => simp

/-! ## Lists of computations -/

theorem mapM_eq_error_of_first {f : α → Except ε β} {before after : List α} {a : α} {e : ε}
    (hb : ∀ x ∈ before, ∃ b, f x = .ok b) (ha : f a = .error e) :
    (before ++ a :: after).mapM f = .error e := by
  induction before with
  | nil => simp [ha]
  | cons x before ih =>
      obtain ⟨b, hx⟩ := hb x (by simp)
      simp [hx, ih (fun y hy => hb y (by simp [hy]))]

theorem mapM_eq_ok_cons {f : α → Except ε β} {a : α} {as : List α} {bs : List β} :
    (a :: as).mapM f = .ok bs ↔ ∃ c cs, f a = .ok c ∧ as.mapM f = .ok cs ∧ bs = c :: cs := by
  rw [List.mapM_cons]
  cases f a with
  | error e => simp
  | ok c => cases as.mapM f with
      | error e => simp
      | ok cs => simp [eq_comm]

theorem exists_append_of_mapM {f : α → Except ε β} {as : List α} {bs cs : List β} (h : as.mapM f = .ok (bs ++ cs)) :
    ∃ front back, as = front ++ back ∧ front.mapM f = .ok bs ∧ back.mapM f = .ok cs := by
  induction bs generalizing as with
  | nil => exact ⟨[], as, rfl, rfl, h⟩
  | cons b bs ih =>
      cases as with
      | nil => cases h
      | cons a as =>
          obtain ⟨c, rest, ha, hrest, he⟩ := mapM_eq_ok_cons.mp h
          cases he
          obtain ⟨front, back, rfl, hf, hb⟩ := ih hrest
          exact ⟨a :: front, back, rfl, mapM_eq_ok_cons.mpr ⟨_, _, ha, hf, rfl⟩, hb⟩

theorem exists_of_mapM_eq_error {f : α → Except ε β} {as : List α} {e : ε} (h : as.mapM f = .error e) :
    ∃ a ∈ as, f a = .error e := by
  induction as with
  | nil => cases h
  | cons a as ih =>
      rw [List.mapM_cons] at h
      rcases bind_eq_error.mp h with h | ⟨_, _, h⟩
      · exact ⟨a, by simp, h⟩
      · rcases bind_eq_error.mp h with h | ⟨_, _, h⟩
        · obtain ⟨a', ha, he⟩ := ih h
          exact ⟨a', by simp [ha], he⟩
        · cases h

theorem foldlM_eq_error {f : β → α → Except ε β} {as : List α} {b : β} {e : ε} :
    as.foldlM f b = .error e ↔
      ∃ before a after b', as = before ++ a :: after ∧ before.foldlM f b = .ok b' ∧ f b' a = .error e := by
  constructor
  · intro h
    induction as generalizing b with
    | nil => cases h
    | cons a as ih =>
        rw [List.foldlM_cons] at h
        rcases bind_eq_error.mp h with h | ⟨b', hb, h⟩
        · exact ⟨[], a, as, b, rfl, rfl, h⟩
        · obtain ⟨before, a', after, b'', rfl, hb', he⟩ := ih h
          exact ⟨a :: before, a', after, b'', rfl, by rw [List.foldlM_cons, hb, ok_bind, hb'], he⟩
  · rintro ⟨before, a, after, b', rfl, hb, he⟩
    rw [List.foldlM_append, hb, ok_bind, List.foldlM_cons, he, error_bind]

/-- What each computation keeps of its argument, the list keeps. -/
theorem map_eq_of_mapM {f : α → Except ε β} {g : α → γ} {h : β → γ} {as : List α} {bs : List β}
    (hf : ∀ a b, f a = .ok b → h b = g a) (hm : as.mapM f = .ok bs) : bs.map h = as.map g := by
  induction as generalizing bs with
  | nil => cases hm; rfl
  | cons a as ih =>
      obtain ⟨c, cs, hc, hcs, rfl⟩ := mapM_eq_ok_cons.mp hm
      simp only [List.map_cons, hf a c hc, ih hcs]

end Outcome

end Calculator
