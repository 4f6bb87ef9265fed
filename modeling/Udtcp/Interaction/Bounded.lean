import Udtcp.Interaction.Routine

/-!
# Programs that end within a number of calls

A bound on how many calls a program makes, whatever the answers. Unlike a bound on the length of
its runs it says that there is no other end, and it is known at every point of a run how many calls
are left.
-/

namespace Interaction

namespace Program

variable {S : Signature} {α β : Type}

/-- However its calls are answered, the program ends and makes at most `n` of them. -/
def EndsWithin : Program S α → Nat → Prop
  | .ret _, _ => True
  | .stop, _ => False
  | .call _ next, n => ∃ m, n = m + 1 ∧ ∀ r, (next r).EndsWithin m

/-- A bound may be raised. -/
theorem EndsWithin.mono {p : Program S α} {n l : Nat} (h : p.EndsWithin n) (hle : n ≤ l) :
    p.EndsWithin l := by
  induction p generalizing n l with
  | ret a => trivial
  | stop => exact h
  | call c next ih =>
    obtain ⟨m, rfl, hnext⟩ := h
    exact ⟨l - 1, by omega, fun r ↦ ih r (hnext r) (by omega)⟩

/-- The bounds of two parts add up. -/
theorem EndsWithin.bind {p : Program S α} {f : α → Program S β} {n l : Nat} (h : p.EndsWithin n)
    (hf : ∀ a, (f a).EndsWithin l) : (p >>= f).EndsWithin (n + l) := by
  induction p generalizing n with
  | ret a => exact (hf a).mono (Nat.le_add_left _ _)
  | stop => exact h
  | call c next ih =>
    obtain ⟨m, rfl, hnext⟩ := h
    exact ⟨m + l, Nat.succ_add_eq_add_succ m l, fun r ↦ ih r (hnext r)⟩

end Program

namespace Routine

variable {S : Signature} {σ α β : Type} {n l : Nat}

/-- From every state the routine ends within `n` calls. -/
def EndsWithin (m : Routine S σ α) (n : Nat) : Prop := ∀ s, (m s).EndsWithin n

/-- A result needs no calls. -/
theorem endsWithin_pure (a : α) : EndsWithin (pure a : Routine S σ α) n := fun _ ↦ trivial

/-- The bounds of two routines add up. -/
theorem EndsWithin.bind {m : Routine S σ α} {f : α → Routine S σ β} (h : EndsWithin m n)
    (hf : ∀ a, EndsWithin (f a) l) : EndsWithin (m >>= f) (n + l) :=
  fun s ↦ (h s).bind fun o ↦ hf o.1 o.2

/-- The bound of a choice. -/
theorem EndsWithin.ite {c : Prop} [Decidable c] {m m' : Routine S σ α} (hm : EndsWithin m n)
    (hm' : EndsWithin m' n) : EndsWithin (if c then m else m') n := by
  split
  · exact hm
  · exact hm'

/-- A bound may be raised. -/
theorem EndsWithin.mono {m : Routine S σ α} (h : EndsWithin m n) (hle : n ≤ l) :
    EndsWithin m l := fun s ↦ (h s).mono hle

end Routine

end Interaction
