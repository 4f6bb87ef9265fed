import Udtcp.Interaction.Routine

/-!
# Contracts

What a program may ask for, call by call, in terms of a private state that the answers move on. A
program that keeps its contract is safe at every point of every run, not only where it ends: its
remainder keeps the contract again, so programs that take turns can be followed one call at a time.
-/

namespace Interaction

/-- The calls allowed in a private state, and the states an answer may lead to. -/
structure Contract (S : Signature) (K : Type) where
  Allows : K → S.Call → Prop
  Answers : K → (c : S.Call) → S.Reply c → K → Prop

namespace Program

variable {S : Signature} {K α β : Type}

/-- Every call of the program is allowed where it is made, whatever the answers before it, and it
returns as `Q` says. -/
def Keeps (C : Contract S K) (Q : α → K → Prop) : Program S α → K → Prop
  | .ret a, k => Q a k
  | .stop, _ => True
  | .call c next, k => C.Allows k c ∧ ∀ r k', C.Answers k c r k' → Keeps C Q (next r) k'

variable {C : Contract S K} {Q : α → K → Prop} {R : β → K → Prop} {k : K}

/-- A conclusion may be weakened. -/
theorem Keeps.mono {Q' : α → K → Prop} {p : Program S α} (h : p.Keeps C Q k)
    (hQ : ∀ a k, Q a k → Q' a k) : p.Keeps C Q' k := by
  induction p generalizing k with
  | ret a => exact hQ a k h
  | stop => trivial
  | call c next ih => exact ⟨h.1, fun r k' hr ↦ ih r (h.2 r k' hr)⟩

/-- Rule for a program and then another. -/
theorem Keeps.bind {p : Program S α} {f : α → Program S β}
    (h : p.Keeps C (fun a k ↦ (f a).Keeps C R k) k) : (p >>= f).Keeps C R k := by
  induction p generalizing k with
  | ret a => exact h
  | stop => trivial
  | call c next ih => exact ⟨h.1, fun r k' hr ↦ ih r (h.2 r k' hr)⟩

/-- A run whose calls are answered as the contract promises ends as it says. -/
theorem Keeps.path {p : Program S α} {tr : Trace S} {a : α} {k' : K} (h : p.Keeps C Q k)
    (hp : p.Path tr a) (ha : Kernel.Accepts C.Answers k tr k') : Q a k' := by
  induction p generalizing k tr with
  | ret b =>
    obtain ⟨rfl, rfl⟩ := hp
    obtain rfl := ha
    exact h
  | stop => exact hp.elim
  | call c next ih =>
    obtain ⟨r, rest, rfl, hp⟩ := hp
    obtain ⟨k₁, hk, ha⟩ := ha
    exact ih r (h.2 r k₁ hk) hp ha

end Program

namespace Routine

variable {S : Signature} {K σ α β : Type}

/-- From `s`, the routine keeps the contract, and returns as `Q` says. -/
def Safe (C : Contract S K) (m : Routine S σ α) (s : σ) (k : K) (Q : α → σ → K → Prop) : Prop :=
  (m s).Keeps C (fun o k' ↦ Q o.1 o.2 k') k

variable {C : Contract S K} {s : σ} {k : K} {Q Q' : α → σ → K → Prop} {R : β → σ → K → Prop}

/-- A conclusion may be weakened. -/
theorem Safe.mono {m : Routine S σ α} (h : Safe C m s k Q)
    (hQ : ∀ a s' k', Q a s' k' → Q' a s' k') : Safe C m s k Q' :=
  Program.Keeps.mono h fun o k' ↦ hQ o.1 o.2 k'

/-- **Soundness.** -/
theorem Safe.exec {m : Routine S σ α} {tr : Trace S} {a : α} {s' : σ} {k' : K}
    (h : Safe C m s k Q) (hm : Exec m s tr a s') (ha : Kernel.Accepts C.Answers k tr k') :
    Q a s' k' := by
  have hkeeps : (m s).Keeps C (fun o k' ↦ Q o.1 o.2 k') k := h
  exact hkeeps.path hm ha

/-- Rule for a result. -/
theorem safe_pure {a : α} (h : Q a s k) : Safe C (pure a) s k Q := h

/-- Rule for a routine and then another. -/
theorem safe_bind {m : Routine S σ α} {f : α → Routine S σ β}
    (h : Safe C m s k fun a s' k' ↦ Safe C (f a) s' k' R) : Safe C (m >>= f) s k R :=
  Program.Keeps.bind h

/-- Rule for a choice. -/
theorem safe_ite {c : Prop} [Decidable c] {m n : Routine S σ α} (hm : c → Safe C m s k Q)
    (hn : ¬ c → Safe C n s k Q) : Safe C (if c then m else n) s k Q := by
  split
  · next hc => exact hm hc
  · next hc => exact hn hc

end Routine

end Interaction
