import Udtcp.Interaction.Environment
import Udtcp.Interaction.Returns

/-!
# Routines that come to an end

Total correctness in an environment: however it answers, a routine ends as wanted, and makes no
call that has no answer. A loop is followed for a bounded number of rounds only, so it is to be
shown that the bound is never used up; a measure that every round brings down shows it.
-/

namespace Interaction

namespace Program

variable {S : Signature} {K α β : Type}

/-- However the environment answers, the program ends as `Q` says. -/
def Ends (ker : Kernel S K) (Q : α → K → Prop) : Program S α → K → Prop
  | .ret a, k => Q a k
  | .stop, _ => False
  | .call c next, k => Nonempty (S.Reply c) ∧ ∀ r k', ker k c r k' → Ends ker Q (next r) k'

variable {ker : Kernel S K} {Q : α → K → Prop} {R : β → K → Prop} {k : K}

/-- A conclusion may be weakened. -/
theorem Ends.mono {Q' : α → K → Prop} {p : Program S α} (h : p.Ends ker Q k)
    (hQ : ∀ a k, Q a k → Q' a k) : p.Ends ker Q' k := by
  induction p generalizing k with
  | ret a => exact hQ a k h
  | stop => exact h
  | call c next ih => exact ⟨h.1, fun r k' hk ↦ ih r (h.2 r k' hk)⟩

/-- Rule for a program and then another. -/
theorem Ends.bind {p : Program S α} {f : α → Program S β}
    (h : p.Ends ker (fun a k ↦ (f a).Ends ker R k) k) : (p >>= f).Ends ker R k := by
  induction p generalizing k with
  | ret a => exact h
  | stop => exact h.elim
  | call c next ih => exact ⟨h.1, fun r k' hk ↦ ih r (h.2 r k' hk)⟩

/-- Every run ends as promised. -/
theorem Ends.path {p : Program S α} {tr : Trace S} {a : α} {k' : K} (h : p.Ends ker Q k)
    (hp : p.Path tr a) (ha : ker.Accepts k tr k') : Q a k' := by
  induction p generalizing k tr with
  | ret b =>
    obtain ⟨rfl, rfl⟩ := hp
    obtain rfl := ha
    exact h
  | stop => exact hp.elim
  | call c next ih =>
    obtain ⟨r, rest, rfl, hp⟩ := hp
    obtain ⟨k₁, hk, ha⟩ := ha
    exact ih r (h.2 r k₁ hk) hp ha

/-- A program that ends may be shown to end well by looking at its runs alone. -/
theorem Ends.along {R : α → K → Prop} {p : Program S α} (h : p.Ends ker Q k)
    (hR : ∀ tr a k', p.Path tr a → ker.Accepts k tr k' → R a k') : p.Ends ker R k := by
  induction p generalizing k with
  | ret a => exact hR [] a k ⟨rfl, rfl⟩ rfl
  | stop => exact h
  | call c next ih =>
    refine ⟨h.1, fun r k₁ hk ↦ ih r (h.2 r k₁ hk) fun tr a k' hp ha ↦ ?_⟩
    exact hR (⟨c, r⟩ :: tr) a k' ⟨r, tr, rfl, hp⟩ ⟨k₁, hk, ha⟩

/-- In an environment that answers, a program that ends has a run. -/
theorem Ends.runs {p : Program S α} (h : p.Ends ker Q k) (hker : ker.Answers) :
    ∃ a k', p.Runs ker k a k' := by
  induction p generalizing k with
  | ret a => exact ⟨a, k, [], ⟨rfl, rfl⟩, rfl⟩
  | stop => exact h.elim
  | call c next ih =>
    obtain ⟨r, k₁, hk⟩ := hker k c h.1
    obtain ⟨a, k', tr, hp, ha⟩ := ih r (h.2 r k₁ hk)
    exact ⟨a, k', ⟨c, r⟩ :: tr, ⟨r, tr, rfl, hp⟩, k₁, hk, ha⟩

/-- A program that returns ends in any environment. -/
theorem Returns.ends {p : Program S α} (h : p.Returns) : p.Ends ker (fun _ _ ↦ True) k := by
  induction p generalizing k with
  | ret a => trivial
  | stop => exact h
  | call c next ih => exact ⟨h.1, fun r k' _ ↦ ih r (h.2 r)⟩

end Program

namespace Routine

variable {S : Signature} {K σ τ α β : Type}

/-- However the environment answers, the routine ends as `Q` says, which sees the result and the end
states of the routine and of the environment. -/
def Total (ker : Kernel S K) (m : Routine S σ α) (s : σ) (k : K) (Q : α → σ → K → Prop) : Prop :=
  (m s).Ends ker (fun o k' ↦ Q o.1 o.2 k') k

variable {ker : Kernel S K} {s : σ} {k : K} {Q Q' : α → σ → K → Prop}

/-- A conclusion may be weakened. -/
theorem Total.mono {m : Routine S σ α} (h : Total ker m s k Q)
    (hQ : ∀ a s' k', Q a s' k' → Q' a s' k') : Total ker m s k Q' :=
  Program.Ends.mono h fun o k' ↦ hQ o.1 o.2 k'

/-- A routine that ends is as correct as it is partially. -/
theorem Total.of_must {m : Routine S σ α} (h : Total ker m s k Q) (hm : Must ker m s k Q') :
    Total ker m s k Q' :=
  Program.Ends.along h fun tr o k' hp ha ↦ hm tr o.1 o.2 k' hp ha

/-- A total routine has a run in an environment that answers. -/
theorem Total.exists_exec {m : Routine S σ α} (h : Total ker m s k Q) (hker : ker.Answers) :
    ∃ tr a s' k', Exec m s tr a s' ∧ ker.Accepts k tr k' ∧ Q a s' k' := by
  have hends : (m s).Ends ker (fun o k' ↦ Q o.1 o.2 k') k := h
  obtain ⟨⟨a, s'⟩, k', tr, hp, ha⟩ := hends.runs hker
  exact ⟨tr, a, s', k', hp, ha, hends.path hp ha⟩

/-- A routine that returns is total. -/
theorem Returns.total {m : Routine S σ α} (h : Returns m) :
    Total ker m s k fun _ _ _ ↦ True := (h s).ends

/-- A routine that returns is correct if it is partially so. -/
theorem Returns.total_of_must {m : Routine S σ α} (h : Returns m) (hm : Must ker m s k Q) :
    Total ker m s k Q := h.total.of_must hm

/-- Rule for a result. -/
theorem total_pure {a : α} (h : Q a s k) : Total ker (pure a) s k Q := h

/-- Rule for a routine and then another. -/
theorem total_bind {m : Routine S σ α} {f : α → Routine S σ β} {R : β → σ → K → Prop}
    (h : Total ker m s k fun a s' k' ↦ Total ker (f a) s' k' R) : Total ker (m >>= f) s k R :=
  Program.Ends.bind h

/-- Rule for a choice. -/
theorem total_ite {c : Prop} [Decidable c] {m n : Routine S σ α} (hm : c → Total ker m s k Q)
    (hn : ¬ c → Total ker n s k Q) : Total ker (if c then m else n) s k Q := by
  split
  · next hc => exact hm hc
  · next hc => exact hn hc

/-- Rule for a routine on a part of the state. -/
theorem total_zoom {view : σ → τ} {put : τ → σ → σ} {m : Routine S τ α}
    (h : Total ker m (view s) k fun a t k' ↦ Q a (put t s) k') :
    Total ker (zoom view put m) s k Q :=
  Program.Ends.bind h

/-- **Loop rule.** A loop ends, with what every round preserves, if every round brings a measure
down that is below the number of rounds it is followed for. -/
theorem total_loop {body : β → Routine S σ (β ⊕ α)} {fuel : Nat} {b : β} (I : β → σ → K → Prop)
    (measure : β → σ → K → Nat) (start : I b s k) (hfuel : measure b s k < fuel)
    (round : ∀ b s k, I b s k → Total ker (body b) s k fun o s' k' ↦
      match o with
      | .inl b' => I b' s' k' ∧ measure b' s' k' < measure b s k
      | .inr a => Q a s' k') : Total ker (loop body fuel b) s k Q := by
  induction fuel generalizing b s k with
  | zero => exact absurd hfuel (Nat.not_lt_zero _)
  | succ fuel ih =>
    refine total_bind ((round b s k start).mono fun o s' k' ho ↦ ?_)
    cases o with
    | inl b' =>
      obtain ⟨hI, hless⟩ := ho
      exact ih hI (by omega)
    | inr a => exact total_pure ho

end Routine

end Interaction
