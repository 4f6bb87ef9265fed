import Udtcp.Interaction.Program

/-!
# Routines: programs over a local state

A routine threads a local state through a program. `Routine.Exec` is its big-step
relation: start state, trace, result and end state. The rules below take a routine
apart one statement at a time; `Exec.loop_invariant` is the rule for loops.
-/

namespace Interaction

/-- Programs over `S` with a local state `σ`. -/
abbrev Routine (S : Signature) (σ α : Type) := StateT σ (Program S) α

namespace Routine

variable {S : Signature} {σ τ α β : Type}

/-- From `s`, the routine runs to its end along `tr`, returns `a` and leaves `s'`. -/
def Exec (m : Routine S σ α) (s : σ) (tr : Trace S) (a : α) (s' : σ) : Prop :=
  (m s).Path tr (a, s')

/-- Make one call. -/
def perform (c : S.Call) : Routine S σ (S.Reply c) := fun s ↦ .call c fun r ↦ .ret (r, s)

/-- End the observation. -/
def halt : Routine S σ α := fun _ ↦ .stop

/-- Run a routine over a part of the state. -/
def zoom (view : σ → τ) (put : τ → σ → σ) (m : Routine S τ α) : Routine S σ α := fun s ↦
  m (view s) >>= fun o ↦ .ret (o.1, put o.2 s)

/-- Follow a loop for at most `fuel` rounds; the body says whether it goes round again. -/
def loop (body : β → Routine S σ (β ⊕ α)) : Nat → β → Routine S σ α
  | 0, _ => halt
  | fuel + 1, b => do
    match ← body b with
    | .inl b' => loop body fuel b'
    | .inr a => pure a

/-! ### Rules -/

variable {s s' : σ} {tr : Trace S}

/-- A result makes no calls and changes nothing. -/
@[simp] theorem exec_pure {a b : α} :
    Exec (pure a : Routine S σ α) s tr b s' ↔ tr = [] ∧ b = a ∧ s' = s := by
  simp [Exec, pure, StateT.pure]

/-- A run of two routines is a run of each. -/
theorem exec_bind {m : Routine S σ α} {f : α → Routine S σ β} {b : β} :
    Exec (m >>= f) s tr b s' ↔
      ∃ tr₁ a s₁ tr₂, tr = tr₁ ++ tr₂ ∧ Exec m s tr₁ a s₁ ∧ Exec (f a) s₁ tr₂ b s' := by
  change Program.Path (m s >>= fun o ↦ f o.1 o.2) tr (b, s') ↔ _
  rw [Program.path_bind]
  constructor
  · rintro ⟨tr₁, ⟨a, s₁⟩, tr₂, rfl, h₁, h₂⟩
    exact ⟨tr₁, a, s₁, tr₂, rfl, h₁, h₂⟩
  · rintro ⟨tr₁, a, s₁, tr₂, rfl, h₁, h₂⟩
    exact ⟨tr₁, (a, s₁), tr₂, rfl, h₁, h₂⟩

@[simp] private theorem exec_map {m : Routine S σ α} {f : α → β} {b : β} :
    Exec (f <$> m) s tr b s' ↔ ∃ a, Exec m s tr a s' ∧ b = f a := by
  rw [← bind_pure_comp, exec_bind]
  constructor
  · rintro ⟨tr₁, a, s₁, tr₂, rfl, h, h'⟩
    obtain ⟨rfl, rfl, rfl⟩ := exec_pure.mp h'
    exact ⟨a, by simpa using h, rfl⟩
  · rintro ⟨a, h, rfl⟩
    exact ⟨tr, a, s', [], by simp, h, exec_pure.mpr ⟨rfl, rfl, rfl⟩⟩

@[simp] private theorem exec_get {a : σ} :
    Exec (get : Routine S σ σ) s tr a s' ↔ tr = [] ∧ a = s ∧ s' = s := by
  simp [Exec, get, getThe, MonadStateOf.get, StateT.get]

@[simp] private theorem exec_modify {f : σ → σ} {u : Unit} :
    Exec (modify f : Routine S σ Unit) s tr u s' ↔ tr = [] ∧ s' = f s := by
  simp [Exec, modify, modifyGet, MonadStateOf.modifyGet, StateT.modifyGet]

/-- A call has the answer as its result. -/
@[simp] theorem exec_perform {c : S.Call} {r : S.Reply c} :
    Exec (perform c) s tr r s' ↔ tr = [⟨c, r⟩] ∧ s' = s := by
  simp only [Exec, perform, Program.path_call, Program.path_ret]
  constructor
  · rintro ⟨r', rest, rfl, rfl, h⟩
    obtain ⟨rfl, rfl⟩ := Prod.mk.inj h
    exact ⟨rfl, rfl⟩
  · rintro ⟨rfl, rfl⟩
    exact ⟨r, [], rfl, rfl, rfl⟩

@[simp] private theorem exec_halt {a : α} : ¬ Exec (halt : Routine S σ α) s tr a s' := id

/-- A run on a part of the state. -/
theorem exec_zoom {view : σ → τ} {put : τ → σ → σ} {m : Routine S τ α} {a : α} :
    Exec (zoom view put m) s tr a s' ↔ ∃ t, Exec m (view s) tr a t ∧ s' = put t s := by
  simp only [Exec, zoom, Program.path_bind, Program.path_ret]
  constructor
  · rintro ⟨tr₁, ⟨b, t⟩, tr₂, rfl, h, rfl, he⟩
    obtain ⟨rfl, rfl⟩ := Prod.mk.inj he
    exact ⟨t, by simpa using h, rfl⟩
  · rintro ⟨t, h, rfl⟩
    exact ⟨tr, (a, t), [], by simp, h, rfl, rfl⟩

/-- A run of a choice. -/
theorem exec_ite {c : Prop} [Decidable c] {m n : Routine S σ α} {a : α} :
    Exec (if c then m else n) s tr a s' ↔ if c then Exec m s tr a s' else Exec n s tr a s' := by
  split <;> rfl

/-- The replies determine the run: a routine has one end for each trace. -/
theorem Exec.unique {m : Routine S σ α} {a b : α} {s₁ s₂ : σ} (h₁ : Exec m s tr a s₁)
    (h₂ : Exec m s tr b s₂) : a = b ∧ s₁ = s₂ := by
  have all (p : Program S (α × σ)) (tr : Trace S) (x y : α × σ) (hx : p.Path tr x)
      (hy : p.Path tr y) : x = y := by
    induction p generalizing tr with
    | ret z => exact hx.2.trans hy.2.symm
    | stop => exact hx.elim
    | call c next ih =>
      obtain ⟨r, rest, rfl, hx⟩ := hx
      obtain ⟨r', rest', he, hy⟩ := hy
      obtain ⟨hr, rfl⟩ := List.cons.inj he
      cases hr
      exact ih r rest hx hy
  exact Prod.mk.inj (all (m s) tr _ _ h₁ h₂)

/-- **Loop rule.** `I b s tr` relates the loop variable, the state and the trace since
the loop was entered. What every round preserves holds where the loop ends. -/
theorem Exec.loop_invariant {body : β → Routine S σ (β ⊕ α)} {fuel : Nat} {b : β} {a : α}
    (I : β → σ → Trace S → Prop) (Q : α → σ → Trace S → Prop)
    (again : ∀ b s tr tr' b' s', I b s tr → Exec (body b) s tr' (.inl b') s' →
      I b' s' (tr ++ tr'))
    (leave : ∀ b s tr tr' a s', I b s tr → Exec (body b) s tr' (.inr a) s' →
      Q a s' (tr ++ tr'))
    (start : I b s []) (h : Exec (loop body fuel b) s tr a s') : Q a s' tr := by
  have all (fuel : Nat) (b : β) (s : σ) (done tr : Trace S) (hI : I b s done)
      (h : Exec (loop body fuel b) s tr a s') : Q a s' (done ++ tr) := by
    induction fuel generalizing b s done tr with
    | zero => exact h.elim
    | succ fuel ih =>
      simp only [loop, exec_bind] at h
      obtain ⟨tr₁, o, s₁, tr₂, rfl, h₁, h₂⟩ := h
      cases o with
      | inl b' =>
        rw [← List.append_assoc]
        exact ih b' s₁ _ tr₂ (again _ _ _ _ _ _ hI h₁) h₂
      | inr a' =>
        obtain ⟨rfl, rfl, rfl⟩ := exec_pure.mp h₂
        rw [List.append_nil]
        exact leave _ _ _ _ _ _ hI h₁
  simpa using all fuel b s [] tr start h

/-- Any number of rounds of a loop that goes on behind them, with the trace they leave. -/
inductive Rounds (body : β → Routine S σ (β ⊕ α)) (b : β) (s : σ) : Trace S → β → σ → Prop
  | refl : Rounds body b s [] b s
  | tail {tr tr' : Trace S} {b₁ b₂ : β} {s₁ s₂ : σ} (h : Rounds body b s tr b₁ s₁)
      (hround : Exec (body b₁) s₁ tr' (.inl b₂) s₂) : Rounds body b s (tr ++ tr') b₂ s₂

/-- A loop that ends is a number of rounds and the one it ends in. -/
theorem exec_loop_rounds {body : β → Routine S σ (β ⊕ α)} {fuel : Nat} {b : β} {a : α}
    (h : Exec (loop body fuel b) s tr a s') : ∃ tr₁ b₁ s₁ tr₂, tr = tr₁ ++ tr₂ ∧
      Rounds body b s tr₁ b₁ s₁ ∧ Exec (body b₁) s₁ tr₂ (.inr a) s' :=
  h.loop_invariant (fun b' s₁ tr₁ ↦ Rounds body b s tr₁ b' s₁)
    (fun a s' tr ↦ ∃ tr₁ b₁ s₁ tr₂, tr = tr₁ ++ tr₂ ∧ Rounds body b s tr₁ b₁ s₁ ∧
      Exec (body b₁) s₁ tr₂ (.inr a) s')
    (fun _ _ _ _ _ _ hI hround ↦ hI.tail hround)
    (fun b₁ s₁ tr₁ tr₂ _ _ hI hround ↦ ⟨tr₁, b₁, s₁, tr₂, rfl, hI, hround⟩) .refl

/-- Every call of some rounds satisfies `P` if every call of each of them does. -/
theorem Rounds.forall_mem {P : Event S → Prop} {body : β → Routine S σ (β ⊕ α)} {b b₁ : β}
    {s₁ : σ} (h : Rounds body b s tr b₁ s₁)
    (hround : ∀ b s tr b' s', Exec (body b) s tr (.inl b') s' → ∀ e ∈ tr, P e) : ∀ e ∈ tr, P e := by
  induction h with
  | refl => nofun
  | tail _ hlast ih => exact List.forall_mem_append.mpr ⟨ih, hround _ _ _ _ _ hlast⟩

/-- Every call the routine makes, with its reply, satisfies `P`. -/
def Emits (P : Event S → Prop) (m : Routine S σ α) : Prop :=
  ∀ s tr a s', Exec m s tr a s' → ∀ e ∈ tr, P e

section Emits

variable {P : Event S → Prop}

/-- A result emits nothing. -/
theorem emits_pure (a : α) : Emits P (pure a : Routine S σ α) := by
  intro s tr b s' h
  obtain ⟨rfl, -, -⟩ := exec_pure.mp h
  simp

/-- Routines in a row emit what both do. -/
theorem Emits.bind {m : Routine S σ α} {f : α → Routine S σ β} (hm : Emits P m)
    (hf : ∀ a, Emits P (f a)) : Emits P (m >>= f) := by
  intro s tr b s' h
  obtain ⟨tr₁, a, s₁, tr₂, rfl, h₁, h₂⟩ := exec_bind.mp h
  intro e he
  rcases List.mem_append.mp he with he | he
  · exact hm _ _ _ _ h₁ e he
  · exact hf a _ _ _ _ h₂ e he

/-- A choice emits what both its branches do. -/
theorem Emits.ite {c : Prop} [Decidable c] {m n : Routine S σ α} (hm : Emits P m)
    (hn : Emits P n) : Emits P (if c then m else n) := by
  split
  · exact hm
  · exact hn

/-- A call emits itself. -/
theorem emits_perform {c : S.Call} (h : ∀ r, P ⟨c, r⟩) :
    Emits P (perform c : Routine S σ (S.Reply c)) := by
  intro s tr r s' hr
  obtain ⟨rfl, -⟩ := exec_perform.mp hr
  simpa using h r

/-- A routine emits the same on a part of the state. -/
theorem Emits.zoom {view : σ → τ} {put : τ → σ → σ} {m : Routine S τ α} (h : Emits P m) :
    Emits P (zoom view put m) := by
  intro s tr a s' hz
  obtain ⟨t, ht, -⟩ := exec_zoom.mp hz
  exact h _ _ _ _ ht

/-- A loop emits what its body does. -/
theorem Emits.loop {body : β → Routine S σ (β ⊕ α)} (h : ∀ b, Emits P (body b)) (fuel : Nat)
    (b : β) : Emits P (loop body fuel b) := by
  intro s tr a s' hl
  refine hl.loop_invariant (fun _ _ tr ↦ ∀ e ∈ tr, P e) (fun _ _ tr ↦ ∀ e ∈ tr, P e) ?_ ?_ ?_
  · exact fun b s tr tr' b' s' hI hround ↦ List.forall_mem_append.mpr ⟨hI, h b s tr' _ s' hround⟩
  · exact fun b s tr tr' a s' hI hround ↦ List.forall_mem_append.mpr ⟨hI, h b s tr' _ s' hround⟩
  · nofun

/-- Every call the routine makes when it ends with a result as `R` says satisfies `P`. -/
def EmitsFor (P : Event S → Prop) (R : α → Prop) (m : Routine S σ α) : Prop :=
  ∀ s tr a s', Exec m s tr a s' → R a → ∀ e ∈ tr, P e

variable {R : α → Prop} {T : β → Prop}

/-- What is emitted always is emitted for some results. -/
theorem Emits.emitsFor {m : Routine S σ α} (h : Emits P m) : EmitsFor P R m :=
  fun s tr a s' hm _ ↦ h s tr a s' hm

/-- A result emits nothing. -/
theorem emitsFor_pure (a : α) : EmitsFor P R (pure a : Routine S σ α) := (emits_pure a).emitsFor

/-- A routine whose results are all others. -/
theorem emitsFor_of_not {m : Routine S σ α} (h : ∀ s tr a s', Exec m s tr a s' → ¬ R a) :
    EmitsFor P R m :=
  fun s tr a s' hm ha ↦ absurd ha (h s tr a s' hm)

/-- A routine that emits something, and then one that does so for some results. -/
theorem EmitsFor.bind {m : Routine S σ α} {f : α → Routine S σ β} (hm : Emits P m)
    (hf : ∀ a, EmitsFor P T (f a)) : EmitsFor P T (m >>= f) := by
  intro s tr b s' h hb
  obtain ⟨tr₁, a, s₁, tr₂, rfl, h₁, h₂⟩ := exec_bind.mp h
  intro e he
  rcases List.mem_append.mp he with he | he
  · exact hm _ _ _ _ h₁ e he
  · exact hf a _ _ _ _ h₂ hb e he

/-- A routine that may come to nothing, with a way out. -/
theorem EmitsFor.bindOption {m : Routine S σ (Option α)} {f : Option α → Routine S σ β}
    (hm : Emits P m) (hnone : EmitsFor P T (f none)) (hsome : ∀ a, EmitsFor P T (f (some a))) :
    EmitsFor P T (m >>= f) := by
  refine .bind hm fun o ↦ ?_
  cases o with
  | none => exact hnone
  | some a => exact hsome a

/-- A choice between such routines. -/
theorem EmitsFor.ite {c : Prop} [Decidable c] {m n : Routine S σ α} (hm : EmitsFor P R m)
    (hn : EmitsFor P R n) : EmitsFor P R (if c then m else n) := by
  split
  · exact hm
  · exact hn

end Emits

/-! ### Runs that can happen -/

/-- Some run of the routine ends as `Q` says, which sees its trace, its result and its end state. -/
def May (m : Routine S σ α) (s : σ) (Q : Trace S → α → σ → Prop) : Prop :=
  ∃ tr a s', Exec m s tr a s' ∧ Q tr a s'

section May

variable {Q Q' : Trace S → α → σ → Prop} {R : Trace S → β → σ → Prop}

/-- A conclusion may be weakened. -/
theorem May.mono {m : Routine S σ α} (h : May m s Q) (hQ : ∀ tr a s', Q tr a s' → Q' tr a s') :
    May m s Q' := by
  obtain ⟨tr, a, s', hm, hq⟩ := h
  exact ⟨tr, a, s', hm, hQ _ _ _ hq⟩

/-- A result can be reached without calls. -/
theorem may_pure {a : α} (h : Q [] a s) : May (pure a) s Q :=
  ⟨[], a, s, exec_pure.mpr ⟨rfl, rfl, rfl⟩, h⟩

/-- Two routines can be run in a row. -/
theorem may_bind {m : Routine S σ α} {f : α → Routine S σ β}
    (h : May m s fun tr a s₁ ↦ May (f a) s₁ fun tr' b s' ↦ R (tr ++ tr') b s') :
    May (m >>= f) s R := by
  obtain ⟨tr₁, a, s₁, hm, tr₂, b, s', hf, hr⟩ := h
  exact ⟨tr₁ ++ tr₂, b, s', exec_bind.mpr ⟨tr₁, a, s₁, tr₂, rfl, hm, hf⟩, hr⟩

/-- A choice whose condition holds. -/
theorem may_if_pos {c : Prop} [Decidable c] {m n : Routine S σ α} (hc : c) (h : May m s Q) :
    May (if c then m else n) s Q := by
  rw [if_pos hc]
  exact h

/-- A choice whose condition does not hold. -/
theorem may_if_neg {c : Prop} [Decidable c] {m n : Routine S σ α} (hc : ¬ c) (h : May n s Q) :
    May (if c then m else n) s Q := by
  rw [if_neg hc]
  exact h

/-- A routine can be run on a part of the state. -/
theorem may_zoom {view : σ → τ} {put : τ → σ → σ} {m : Routine S τ α}
    (h : May m (view s) fun tr a t ↦ Q tr a (put t s)) : May (zoom view put m) s Q := by
  obtain ⟨tr, a, t, hm, hq⟩ := h
  exact ⟨tr, a, put t s, exec_zoom.mpr ⟨t, hm, rfl⟩, hq⟩

end May

end Routine

end Interaction
