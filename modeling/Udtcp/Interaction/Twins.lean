import Udtcp.Interaction.Routine

/-!
# Two runs that are answered alike

A relational logic for two runs of routines. `same` says which pairs of calls with their replies
the environments of the two runs may show at the same place; what holds of two runs that are
answered so is taken apart one statement at a time, as long as the two make their calls in step.
-/

namespace Interaction

/-- The calls and replies of two traces are related place by place, as far as both go. -/
def Alike {S : Signature} (same : Event S → Event S → Prop) : Trace S → Trace S → Prop
  | e :: tr, e' :: tr' => same e e' ∧ Alike same tr tr'
  | _, _ => True

/-- A call that gets the same answer in both runs. -/
def Settled {S : Signature} (same : Event S → Event S → Prop) (e : Event S) : Prop :=
  ∀ r, same e ⟨e.call, r⟩ → r = e.reply

/-- Two runs of one program whose calls are all settled are the same run. -/
theorem Program.Path.eq_of_alike {S : Signature} {α : Type} {same : Event S → Event S → Prop}
    {p : Program S α} {tr tr' rest rest' : Trace S} {a a' : α} (h : p.Path tr a)
    (h' : p.Path tr' a') (halike : Alike same (tr ++ rest) (tr' ++ rest'))
    (hset : ∀ e ∈ tr, Settled same e) : a' = a ∧ Alike same rest rest' := by
  induction p generalizing tr tr' with
  | ret b =>
    obtain ⟨rfl, rfl⟩ := h
    obtain ⟨rfl, rfl⟩ := h'
    exact ⟨rfl, halike⟩
  | stop => exact h.elim
  | call c next ih =>
    obtain ⟨r, tr, rfl, h⟩ := h
    obtain ⟨r', tr', rfl, h'⟩ := h'
    obtain ⟨hsame, halike⟩ := halike
    obtain ⟨hhead, htail⟩ := List.forall_mem_cons.mp hset
    obtain rfl : r' = r := hhead r' hsame
    exact ih r' h h' halike htail

namespace Routine

variable {S : Signature} {same : Event S → Event S → Prop} {σ σ' τ α β γ : Type}

/-- Whatever two runs of `m` and `m'` that are answered alike come to, `Q` holds of the results
and the end states, and what follows is answered alike from the same place on. -/
def Twins (same : Event S → Event S → Prop) (m : Routine S σ α) (m' : Routine S σ β) (s s' : σ)
    (Q : α → σ → β → σ → Prop) : Prop :=
  ∀ tr a t tr' b t' rest rest', Exec m s tr a t → Exec m' s' tr' b t' →
    Alike same (tr ++ rest) (tr' ++ rest') → Alike same rest rest' ∧ Q a t b t'

variable {s s' : σ} {Q Q' : α → σ → β → σ → Prop}

/-- A conclusion may be weakened. -/
theorem Twins.mono {m : Routine S σ α} {m' : Routine S σ β} (h : Twins same m m' s s' Q)
    (hQ : ∀ a t b t', Q a t b t' → Q' a t b t') : Twins same m m' s s' Q' := by
  intro tr a t tr' b t' rest rest' hm hm' halike
  obtain ⟨hrest, hq⟩ := h tr a t tr' b t' rest rest' hm hm' halike
  exact ⟨hrest, hQ _ _ _ _ hq⟩

/-- Rule for two results. -/
theorem twins_pure {a : α} {b : β} (h : Q a s b s') : Twins same (pure a) (pure b) s s' Q := by
  intro tr a' t tr' b' t' rest rest' hm hm' halike
  obtain ⟨rfl, rfl, rfl⟩ := exec_pure.mp hm
  obtain ⟨rfl, rfl, rfl⟩ := exec_pure.mp hm'
  exact ⟨halike, h⟩

/-- Rule for two pairs of routines in a row. -/
theorem twins_bind {γ' : Type} {m : Routine S σ α} {m' : Routine S σ β} {f : α → Routine S σ γ}
    {f' : β → Routine S σ γ'} {R : γ → σ → γ' → σ → Prop}
    (h : Twins same m m' s s' fun a t b t' ↦ Twins same (f a) (f' b) t t' R) :
    Twins same (m >>= f) (m' >>= f') s s' R := by
  intro tr c u tr' c' u' rest rest' hm hm' halike
  obtain ⟨tr₁, a, t, tr₂, rfl, h₁, h₂⟩ := exec_bind.mp hm
  obtain ⟨tr₁', b, t', tr₂', rfl, h₁', h₂'⟩ := exec_bind.mp hm'
  rw [List.append_assoc, List.append_assoc] at halike
  obtain ⟨halike₂, hnext⟩ := h _ _ _ _ _ _ _ _ h₁ h₁' halike
  exact hnext _ _ _ _ _ _ _ _ h₂ h₂' halike₂

/-- Rule for two choices that are made alike. -/
theorem twins_ite {c : Prop} [Decidable c] {m n : Routine S σ α} {m' n' : Routine S σ β}
    (hm : c → Twins same m m' s s' Q) (hn : ¬ c → Twins same n n' s s' Q) :
    Twins same (if c then m else n) (if c then m' else n') s s' Q := by
  split
  · next hc => exact hm hc
  · next hc => exact hn hc

/-- A routine all of whose calls are settled does the same twice. -/
theorem twins_self {m : Routine S σ α} {Q : α → σ → α → σ → Prop} (hm : Emits (Settled same) m)
    (h : ∀ tr a t, Exec m s tr a t → Q a t a t) : Twins same m m s s Q := by
  intro tr a t tr' b t' rest rest' hr hr' halike
  obtain ⟨heq, hrest⟩ := Program.Path.eq_of_alike hr hr' halike (hm _ _ _ _ hr)
  obtain ⟨rfl, rfl⟩ := Prod.mk.inj heq
  exact ⟨hrest, h _ _ _ hr⟩

/-- Rule for two calls. -/
theorem twins_perform {c c' : S.Call} {Q : S.Reply c → σ → S.Reply c' → σ → Prop}
    (h : ∀ r r', same ⟨c, r⟩ ⟨c', r'⟩ → Q r s r' s') :
    Twins same (perform c) (perform c') s s' Q := by
  intro tr r t tr' r' t' rest rest' hm hm' halike
  obtain ⟨rfl, rfl⟩ := exec_perform.mp hm
  obtain ⟨rfl, rfl⟩ := exec_perform.mp hm'
  exact ⟨halike.2, h r r' halike.1⟩

/-- Rule for two routines on a part of the state. -/
theorem twins_zoom {view : σ → τ} {put : τ → σ → σ} {m : Routine S τ α} {m' : Routine S τ β}
    (h : Twins same m m' (view s) (view s') fun a t b t' ↦ Q a (put t s) b (put t' s')) :
    Twins same (zoom view put m) (zoom view put m') s s' Q := by
  intro tr a t tr' b t' rest rest' hm hm' halike
  obtain ⟨u, hu, rfl⟩ := exec_zoom.mp hm
  obtain ⟨u', hu', rfl⟩ := exec_zoom.mp hm'
  exact h _ _ _ _ _ _ _ _ hu hu' halike

end Routine

end Interaction
