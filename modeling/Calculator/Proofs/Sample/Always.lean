import Calculator.Sample.Expression

/-!
# What holds of every sample

A property of what is drawn, whatever the state of the generator. It goes through the draws in order, each of which may
depend on those before it.
-/

namespace Calculator.Sample

/-- Whatever the generator, the value has the property. -/
def Always {α : Type} (x : Sample α) (p : α → Prop) : Prop := ∀ g, p (x g).1

variable {α β : Type} {x y : Sample α} {f : α → Sample β} {p : α → Prop} {q : β → Prop} {a : α} {n : UInt32}

theorem Always.fromSeed (h : x.Always p) (seed : UInt64) : p (fromSeed seed x) := h ⟨seed⟩

/-! ## Draws in order -/

theorem always_pure (h : p a) : Always (pure a) p := fun _ => h

theorem always_bind (hx : x.Always p) (hf : ∀ a, p a → (f a).Always q) : Always (x >>= f) q :=
  fun g => hf (x g).1 (hx g) (x g).2

theorem always_map {f : α → β} (hx : x.Always fun a => q (f a)) : Always (f <$> x) q := hx

theorem always_ite {c : Prop} [Decidable c] (hx : c → x.Always p) (hy : ¬c → y.Always p) :
    Always (if c then x else y) p := by
  split
  · exact hx ‹_›
  · exact hy ‹_›

theorem Always.mono {p' : α → Prop} (hx : x.Always p) (h : ∀ a, p a → p' a) : x.Always p' := fun g => h _ (hx g)

theorem always_many (hx : x.Always p) (count : Nat) :
    (many x count).Always fun as => as.length = count ∧ ∀ a ∈ as, p a := by
  induction count with
  | zero => exact always_pure ⟨rfl, by simp⟩
  | succ count ih =>
      refine always_bind hx fun a ha => always_bind ih fun as has => always_pure ⟨?_, ?_⟩
      · rw [List.length_cons, has.1]
      · exact List.forall_mem_cons.mpr ⟨ha, has.2⟩

/-! ## Numbers below a bound -/

theorem always_pick (h : 0 < n.toNat) : (pick n).Always fun k => k.toNat < n.toNat := by
  have hne : n ≠ 0 := by
    rintro rfl
    exact absurd h (by decide)
  unfold pick
  rw [if_neg hne]
  refine always_map fun g => ?_
  exact Nat.lt_of_le_of_lt (Nat.le_of_eq (UInt32.toNat_mod _ n)) (Nat.mod_lt _ h)

theorem always_pick_from_one (h : 0 < n.toNat) :
    Always ((1 + ·) <$> pick n) fun k => 1 ≤ k.toNat ∧ k.toNat ≤ n.toNat := by
  refine always_map ((always_pick h).mono fun k hk => ?_)
  have hlt := n.toNat_lt
  have hsum : (1 + k).toNat = 1 + k.toNat := by
    rw [UInt32.toNat_add]
    exact Nat.mod_eq_of_lt (by change 1 + k.toNat < 2 ^ (32 : Nat); omega)
  omega

end Calculator.Sample
