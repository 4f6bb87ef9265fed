import Udtcp.Interaction.Routine

/-!
# Routines that return

A routine returns if it comes to an end however its calls are answered, and makes none that has no
answer. In surroundings that never leave a call unanswered it then has a run.
-/

namespace Interaction

/-- Surroundings that answer every call that has an answer. -/
def Kernel.Answers {S : Signature} {K : Type} (ker : Kernel S K) : Prop :=
  ∀ k (c : S.Call), Nonempty (S.Reply c) → ∃ r k', ker k c r k'

namespace Program

variable {S : Signature} {K α β : Type}

/-- However its calls are answered, the program returns. -/
def Returns : Program S α → Prop
  | .ret _ => True
  | .stop => False
  | .call c next => Nonempty (S.Reply c) ∧ ∀ r, (next r).Returns

/-- Programs that return, in a row. -/
theorem Returns.bind {p : Program S α} {f : α → Program S β} (h : p.Returns)
    (hf : ∀ a, (f a).Returns) : (p >>= f).Returns := by
  induction p with
  | ret a => exact hf a
  | stop => exact h.elim
  | call c next ih => exact ⟨h.1, fun r ↦ ih r (h.2 r)⟩

/-- A program that returns has a run in an environment that answers. -/
theorem Returns.runs {p : Program S α} {ker : Kernel S K} (h : p.Returns) (hker : ker.Answers)
    (k : K) : ∃ a k', p.Runs ker k a k' := by
  induction p generalizing k with
  | ret a => exact ⟨a, k, [], ⟨rfl, rfl⟩, rfl⟩
  | stop => exact h.elim
  | call c next ih =>
    obtain ⟨r, k₁, hr⟩ := hker k c h.1
    obtain ⟨a, k', tr, hp, ha⟩ := ih r (h.2 r) k₁
    exact ⟨a, k', ⟨c, r⟩ :: tr, ⟨r, tr, rfl, hp⟩, k₁, hr, ha⟩

end Program

namespace Routine

variable {S : Signature} {σ τ α β K : Type}

/-- From every state and however its calls are answered, the routine returns. -/
def Returns (m : Routine S σ α) : Prop := ∀ s, (m s).Returns

/-- A result returns. -/
theorem returns_pure (a : α) : Returns (pure a : Routine S σ α) := fun _ ↦ trivial

/-- Routines that return, in a row. -/
theorem Returns.bind {m : Routine S σ α} {f : α → Routine S σ β} (hm : Returns m)
    (hf : ∀ a, Returns (f a)) : Returns (m >>= f) :=
  fun s ↦ (hm s).bind fun o ↦ hf o.1 o.2

/-- A choice between routines that return. -/
theorem Returns.ite {c : Prop} [Decidable c] {m n : Routine S σ α} (hm : Returns m)
    (hn : Returns n) : Returns (if c then m else n) := by
  split
  · exact hm
  · exact hn

/-- A routine that returns, on a part of the state. -/
theorem Returns.zoom {view : σ → τ} {put : τ → σ → σ} {m : Routine S τ α} (hm : Returns m) :
    Returns (zoom view put m) := fun s ↦ (hm (view s)).bind fun _ ↦ trivial

/-- A routine that returns has a run in surroundings that answer. -/
theorem Returns.exists_exec {m : Routine S σ α} {ker : Kernel S K} (hm : Returns m)
    (hker : ker.Answers) (s : σ) (k : K) :
    ∃ tr a s' k', Exec m s tr a s' ∧ ker.Accepts k tr k' := by
  obtain ⟨⟨a, s'⟩, k', tr, hp, ha⟩ := (hm s).runs hker k
  exact ⟨tr, a, s', k', hp, ha⟩

end Routine

end Interaction
