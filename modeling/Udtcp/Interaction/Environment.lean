import Udtcp.Interaction.Routine

/-!
# Routines in an environment

What a routine comes to whatever its environment answers: the weakest precondition of a routine
over its own state and that of the environment. The rules take a routine apart one statement at a
time, as those of `Routine.Exec` do, but with the environment's part already worked in.
-/

namespace Interaction

namespace Routine

variable {S : Signature} {K σ τ α β : Type}

/-- Every run the environment allows ends as `Q` says, which sees the result and the end states of
the routine and of the environment. -/
def Must (ker : Kernel S K) (m : Routine S σ α) (s : σ) (k : K) (Q : α → σ → K → Prop) : Prop :=
  ∀ tr a s' k', Exec m s tr a s' → ker.Accepts k tr k' → Q a s' k'

section

variable {ker : Kernel S K} {s : σ} {k : K} {Q Q' : α → σ → K → Prop}

/-- A conclusion may be weakened. -/
theorem Must.mono {m : Routine S σ α} (h : Must ker m s k Q)
    (hQ : ∀ a s' k', Q a s' k' → Q' a s' k') : Must ker m s k Q' :=
  fun tr a s' k' hm ha ↦ hQ _ _ _ (h tr a s' k' hm ha)

/-- Rule for a result. -/
theorem must_pure {a : α} (h : Q a s k) : Must ker (pure a) s k Q := by
  intro tr b s' k' hm ha
  obtain ⟨rfl, rfl, rfl⟩ := exec_pure.mp hm
  obtain rfl := ha
  exact h

/-- Rule for a routine and then another. -/
theorem must_bind {m : Routine S σ α} {f : α → Routine S σ β} {R : β → σ → K → Prop}
    (h : Must ker m s k fun a s₁ k₁ ↦ Must ker (f a) s₁ k₁ R) : Must ker (m >>= f) s k R := by
  intro tr b s' k' hm ha
  obtain ⟨tr₁, a, s₁, tr₂, rfl, h₁, h₂⟩ := exec_bind.mp hm
  obtain ⟨k₁, ha₁, ha₂⟩ := ker.accepts_append.mp ha
  exact h tr₁ a s₁ k₁ h₁ ha₁ tr₂ b s' k' h₂ ha₂

/-- Rule for a choice. -/
theorem must_ite {c : Prop} [Decidable c] {m n : Routine S σ α} (hm : c → Must ker m s k Q)
    (hn : ¬ c → Must ker n s k Q) : Must ker (if c then m else n) s k Q := by
  split
  · next hc => exact hm hc
  · next hc => exact hn hc

/-- Rule for a call. -/
theorem must_perform {c : S.Call} {Q : S.Reply c → σ → K → Prop}
    (h : ∀ r k', ker k c r k' → Q r s k') : Must ker (perform c) s k Q := by
  intro tr r s' k' hm ha
  obtain ⟨rfl, rfl⟩ := exec_perform.mp hm
  obtain ⟨k₁, hk, rfl⟩ := ha
  exact h r _ hk

private theorem must_halt : Must ker (halt : Routine S σ α) s k Q := fun _ _ _ _ hm ↦ hm.elim

/-- Rule for a routine on a part of the state. -/
theorem must_zoom {view : σ → τ} {put : τ → σ → σ} {m : Routine S τ α}
    (h : Must ker m (view s) k fun a t k' ↦ Q a (put t s) k') :
    Must ker (zoom view put m) s k Q := by
  intro tr a s' k' hm ha
  obtain ⟨t, ht, rfl⟩ := exec_zoom.mp hm
  exact h tr a t k' ht ha

/-- **Loop rule.** What every round preserves holds where the loop ends. -/
theorem must_loop {body : β → Routine S σ (β ⊕ α)} {fuel : Nat} {b : β} (I : β → σ → K → Prop)
    (start : I b s k) (round : ∀ b s k, I b s k → Must ker (body b) s k fun o s' k' ↦
      match o with
      | .inl b' => I b' s' k'
      | .inr a => Q a s' k') : Must ker (loop body fuel b) s k Q := by
  induction fuel generalizing b s k with
  | zero => exact must_halt
  | succ fuel ih =>
    refine must_bind ((round b s k start).mono fun o s' k' ho ↦ ?_)
    cases o with
    | inl b' => exact ih ho
    | inr a => exact must_pure ho

end

/-! ### What a routine maintains -/

/-- A relation between the state of the routine and that of the environment that no run breaks. -/
def Maintains (ker : Kernel S K) (I : σ → K → Prop) (m : Routine S σ α) : Prop :=
  ∀ s k, I s k → Must ker m s k fun _ s' k' ↦ I s' k'

section Maintains

variable {ker : Kernel S K} {I : σ → K → Prop}

/-- A result maintains anything. -/
theorem maintains_pure (a : α) : Maintains ker I (pure a) := fun _ _ hI ↦ must_pure hI

/-- Two routines in a row maintain what both do. -/
theorem Maintains.bind {m : Routine S σ α} {f : α → Routine S σ β} (hm : Maintains ker I m)
    (hf : ∀ a, Maintains ker I (f a)) : Maintains ker I (m >>= f) :=
  fun s k hI ↦ must_bind ((hm s k hI).mono fun a s' k' hI' ↦ hf a s' k' hI')

/-- A choice maintains what both its branches do. -/
theorem Maintains.ite {c : Prop} [Decidable c] {m n : Routine S σ α} (hm : Maintains ker I m)
    (hn : Maintains ker I n) : Maintains ker I (if c then m else n) :=
  fun s k hI ↦ must_ite (fun _ ↦ hm s k hI) fun _ ↦ hn s k hI

/-- A call maintains what its answers do. -/
theorem maintains_perform {c : S.Call} (h : ∀ s k r k', I s k → ker k c r k' → I s k') :
    Maintains ker I (perform c : Routine S σ (S.Reply c)) :=
  fun s k hI ↦ must_perform fun r k' hk ↦ h s k r k' hI hk

/-- A loop maintains what its body does. -/
theorem Maintains.loop {body : β → Routine S σ (β ⊕ α)} (h : ∀ b, Maintains ker I (body b))
    (fuel : Nat) (b : β) : Maintains ker I (loop body fuel b) := by
  intro s k hI
  refine must_loop (fun _ ↦ I) hI fun b s k hI ↦ (h b s k hI).mono fun o s' k' hI' ↦ ?_
  cases o <;> exact hI'

/-- The same, behind the runs whose result satisfies `R`. -/
def MaintainsFor (ker : Kernel S K) (I : σ → K → Prop) (R : α → Prop) (m : Routine S σ α) : Prop :=
  ∀ s k, I s k → Must ker m s k fun a s' k' ↦ R a → I s' k'

variable {R : α → Prop}

/-- What is maintained is so for some results. -/
theorem Maintains.maintainsFor {m : Routine S σ α} (h : Maintains ker I m) :
    MaintainsFor ker I R m := fun s k hI ↦ (h s k hI).mono fun _ _ _ hI' _ ↦ hI'

/-- Nothing is to be shown of a routine that returns something else. -/
theorem maintainsFor_of_not {m : Routine S σ α} (h : ∀ s tr a s', Exec m s tr a s' → ¬ R a) :
    MaintainsFor ker I R m := fun s _ _ tr a s' _ hm _ hR ↦ absurd hR (h s tr a s' hm)

/-- A routine that maintains something, and then one that does so for some results. -/
theorem MaintainsFor.bind {R : β → Prop} {m : Routine S σ α} {f : α → Routine S σ β}
    (hm : Maintains ker I m) (hf : ∀ a, MaintainsFor ker I R (f a)) :
    MaintainsFor ker I R (m >>= f) :=
  fun s k hI ↦ must_bind ((hm s k hI).mono fun a s' k' hI' ↦ hf a s' k' hI')

/-- A routine that may come to nothing, with a way out. -/
theorem MaintainsFor.bindOption {R : β → Prop} {m : Routine S σ (Option α)}
    {f : Option α → Routine S σ β} (hm : Maintains ker I m) (hnone : MaintainsFor ker I R (f none))
    (hsome : ∀ a, MaintainsFor ker I R (f (some a))) : MaintainsFor ker I R (m >>= f) := by
  refine .bind hm fun o ↦ ?_
  cases o with
  | none => exact hnone
  | some a => exact hsome a

/-- A choice between such routines. -/
theorem MaintainsFor.ite {c : Prop} [Decidable c] {m n : Routine S σ α}
    (hm : MaintainsFor ker I R m) (hn : MaintainsFor ker I R n) :
    MaintainsFor ker I R (if c then m else n) :=
  fun s k hI ↦ must_ite (fun _ ↦ hm s k hI) fun _ ↦ hn s k hI

/-- What a routine maintains in every environment holds behind each of its runs. -/
theorem Maintains.exec {I : σ → Prop} {m : Routine S σ α} {s s' : σ} {tr : Trace S} {a : α}
    (h : ∀ ker : Kernel S Unit, Maintains ker (fun s _ ↦ I s) m) (hm : Exec m s tr a s')
    (hs : I s) : I s' := by
  have hall (tr : Trace S) : Kernel.Accepts (S := S) (fun _ _ _ _ ↦ True) () tr () := by
    induction tr with
    | nil => rfl
    | cons e tr ih => exact ⟨(), trivial, ih⟩
  exact h _ s () hs tr a s' () hm (hall tr)

end Maintains

/-! ### Repetition -/

/-- Any number of runs in a row, each of a routine taken from `ms`. -/
inductive Repeats (ker : Kernel S K) (ms : Routine S σ α → Prop) : σ → K → σ → K → Prop
  | refl (s : σ) (k : K) : Repeats ker ms s k s k
  | tail {s s₁ s₂ : σ} {k k₁ k₂ : K} {m : Routine S σ α} {tr : Trace S} {a : α}
      (h : Repeats ker ms s k s₁ k₁) (hm : ms m) (he : Exec m s₁ tr a s₂)
      (ha : ker.Accepts k₁ tr k₂) : Repeats ker ms s k s₂ k₂

/-- What every routine of a family maintains, any number of them maintain. -/
theorem Repeats.invariant {ker : Kernel S K} {ms : Routine S σ α → Prop} {s s' : σ} {k k' : K}
    {I : σ → K → Prop} (h : Repeats ker ms s k s' k') (hms : ∀ m, ms m → Maintains ker I m)
    (hI : I s k) : I s' k' := by
  induction h with
  | refl => exact hI
  | tail _ hm he ha ih => exact hms _ hm _ _ (ih hI) _ _ _ _ he ha

/-- Any number of runs in a row, each of a routine taken from `ms` and begun where `G` holds. -/
inductive RepeatsWhile (ker : Kernel S K) (ms : Routine S σ α → Prop) (G : σ → Prop) :
    σ → K → σ → K → Prop
  | refl (s : σ) (k : K) : RepeatsWhile ker ms G s k s k
  | tail {s s₁ s₂ : σ} {k k₁ k₂ : K} {m : Routine S σ α} {tr : Trace S} {a : α}
      (h : RepeatsWhile ker ms G s k s₁ k₁) (hm : ms m) (hG : G s₁) (he : Exec m s₁ tr a s₂)
      (ha : ker.Accepts k₁ tr k₂) : RepeatsWhile ker ms G s k s₂ k₂

/-- What every routine of a family keeps where it may begin, any number of them keep. -/
theorem RepeatsWhile.invariant {ker : Kernel S K} {ms : Routine S σ α → Prop} {G : σ → Prop}
    {s s' : σ} {k k' : K} {I : σ → K → Prop} (h : RepeatsWhile ker ms G s k s' k')
    (hms : ∀ m, ms m → ∀ s k, G s → I s k → Must ker m s k fun _ ↦ I) (hI : I s k) : I s' k' := by
  induction h with
  | refl => exact hI
  | tail _ hm hG he ha ih => exact hms _ hm _ _ hG (ih hI) _ _ _ _ he ha

end Routine

/-! ### Recording what is seen -/

/-- The environment that answers anything and writes down what an observer sees. -/
def recorder {S : Signature} {β : Type} (view : (c : S.Call) → S.Reply c → Option β) :
    Kernel S (List β) := fun seen c r seen' ↦ seen' = seen ++ (view c r).toList

/-- What the recorder holds in the end is what is seen of the trace. -/
theorem accepts_recorder {S : Signature} {β : Type} {view : (c : S.Call) → S.Reply c → Option β}
    {seen seen' : List β} {tr : Trace S} : (recorder view).Accepts seen tr seen' ↔
      seen' = seen ++ tr.filterMap fun e ↦ view e.call e.reply := by
  induction tr generalizing seen with
  | nil => simp
  | cons e tr ih =>
    simp only [Kernel.accepts_cons, recorder, exists_eq_left, ih]
    rw [List.append_assoc, List.filterMap_cons]
    cases view e.call e.reply <;> rfl

end Interaction
