import Udtcp.Posix.Call

/-!
# How `errno` runs through a routine

A call that fails sets `errno`, one that succeeds leaves it alone. A routine that does not read it
is blind to it: its calls, its result and the object it leaves do not depend on the value it starts
with, and the value it ends with is that of the last failure, if there is one.
-/

namespace Udtcp

open Interaction Routine

/-- The error a call reports, if it fails. -/
def failureOf : (c : Call) → c.Reply → Option Errno
  | .sys _, .error e => some e
  | _, _ => none

/-- The call failed. -/
def Failed (e : Event posix) : Prop := (failureOf e.call e.reply).isSome

/-- `errno` after the calls of a trace. -/
def errnoAfter : Errno → Trace posix → Errno
  | e, [] => e
  | e, ev :: tr => errnoAfter ((failureOf ev.call ev.reply).getD e) tr

@[simp] private theorem errnoAfter_nil (e : Errno) : errnoAfter e [] = e := rfl

/-- What `errno` is behind two parts of a trace. -/
@[simp] theorem errnoAfter_append (e : Errno) (tr tr' : Trace posix) :
    errnoAfter e (tr ++ tr') = errnoAfter (errnoAfter e tr) tr' := by
  induction tr generalizing e with
  | nil => rfl
  | cons ev tr ih => exact ih _

/-- Behind a failure, `errno` is what that or a later one says. -/
theorem errnoAfter_eq_of_failed {tr : Trace posix} (h : ∃ ev ∈ tr, Failed ev) (e e' : Errno) :
    errnoAfter e tr = errnoAfter e' tr := by
  induction tr generalizing e e' with
  | nil =>
    obtain ⟨ev, hev, -⟩ := h
    cases hev
  | cons ev tr ih =>
    by_cases hfail : Failed ev
    · obtain ⟨e₀, he₀⟩ := Option.isSome_iff_exists.mp hfail
      simp only [errnoAfter, he₀, Option.getD_some]
    · obtain ⟨ev', hev', hfail'⟩ := h
      rcases List.mem_cons.mp hev' with rfl | hmem
      · exact absurd hfail' hfail
      · exact ih ⟨ev', hmem, hfail'⟩ _ _

/-- Without a failure, `errno` is what it was. -/
theorem errnoAfter_eq_self {tr : Trace posix} (h : ∀ ev ∈ tr, ¬ Failed ev) (e : Errno) :
    errnoAfter e tr = e := by
  induction tr with
  | nil => rfl
  | cons ev tr ih =>
    obtain ⟨hev, htr⟩ := List.forall_mem_cons.mp h
    have hnone : failureOf ev.call ev.reply = none := by simpa [Failed] using hev
    simp only [errnoAfter, hnone, Option.getD_none]
    exact ih htr

section

variable {τ σ α β : Type}

/-- What a routine does does not depend on `errno`. -/
def Blind (m : Proc τ α) : Prop :=
  ∀ ⦃t : Thread τ⦄ ⦃tr : Trace posix⦄ ⦃a : α⦄ ⦃t' : Thread τ⦄, Exec m t tr a t' →
    t'.errno = errnoAfter t.errno tr ∧ ∀ e, Exec m ⟨e, t.self⟩ tr a ⟨errnoAfter e tr, t'.self⟩

/-- A result does not depend on `errno`. -/
theorem blind_pure (a : α) : Blind (pure a : Proc τ α) := by
  intro t tr b t' h
  obtain ⟨rfl, rfl, rfl⟩ := exec_pure.mp h
  exact ⟨rfl, fun e ↦ exec_pure.mpr ⟨rfl, rfl, rfl⟩⟩

/-- Blind routines in a row. -/
theorem Blind.bind {m : Proc τ α} {f : α → Proc τ β} (hm : Blind m) (hf : ∀ a, Blind (f a)) :
    Blind (m >>= f) := by
  intro t tr b t' h
  obtain ⟨tr₁, a, t₁, tr₂, rfl, h₁, h₂⟩ := exec_bind.mp h
  obtain ⟨he₁, hany₁⟩ := hm h₁
  obtain ⟨he₂, hany₂⟩ := hf a h₂
  simp only [errnoAfter_append]
  refine ⟨by rw [he₂, he₁], fun e ↦ ?_⟩
  exact exec_bind.mpr ⟨tr₁, a, _, tr₂, rfl, hany₁ e, hany₂ _⟩

/-- A choice between blind routines. -/
theorem Blind.ite {c : Prop} [Decidable c] {m n : Proc τ α} (hm : Blind m) (hn : Blind n) :
    Blind (if c then m else n) := by
  split
  · exact hm
  · exact hn

/-- A system call does not read `errno`. -/
theorem blind_syscall (c : SysCall) : Blind (syscall c : Proc τ _) := by
  intro t tr r t' h
  obtain ⟨rfl, rfl⟩ := exec_syscall.mp h
  cases r with
  | error e' => exact ⟨rfl, fun e ↦ exec_syscall.mpr ⟨rfl, rfl⟩⟩
  | ok a => exact ⟨rfl, fun e ↦ exec_syscall.mpr ⟨rfl, rfl⟩⟩

/-- A call with a reply that cannot fail is blind. -/
theorem blind_request {c : Call} (hc : ∀ r, failureOf c r = none) :
    Blind (request c : Proc τ _) := by
  intro t tr r t' h
  obtain ⟨rfl, rfl⟩ := exec_request.mp h
  have hnone : errnoAfter t'.errno [⟨c, r⟩] = t'.errno := by
    simp only [errnoAfter, hc r, Option.getD_none]
  refine ⟨hnone.symm, fun e ↦ exec_request.mpr ⟨rfl, ?_⟩⟩
  simp only [errnoAfter, hc r, Option.getD_none]

/-- A call without a reply that cannot fail is blind. -/
theorem blind_issue {c : Call} (hc : ∀ r, failureOf c r = none) :
    Blind (issue c : Proc τ Unit) := by
  intro t tr u t' h
  obtain ⟨r, rfl, rfl⟩ := exec_issue.mp h
  have hnone (e : Errno) : errnoAfter e [⟨c, r⟩] = e := by
    simp only [errnoAfter, hc r, Option.getD_none]
  refine ⟨(hnone _).symm, fun e ↦ exec_issue.mpr ⟨r, rfl, ?_⟩⟩
  rw [hnone]

/-- Reading the object is blind. -/
theorem blind_self : Blind (self : Proc τ τ) := by
  intro t tr a t' h
  obtain ⟨rfl, rfl, rfl⟩ := exec_self.mp h
  exact ⟨rfl, fun e ↦ exec_self.mpr ⟨rfl, rfl, rfl⟩⟩

/-- An update is blind. -/
theorem blind_update (f : τ → τ) : Blind (update f) := by
  intro t tr u t' h
  obtain ⟨rfl, rfl⟩ := exec_update.mp h
  exact ⟨rfl, fun e ↦ exec_update.mpr ⟨rfl, rfl⟩⟩

/-- A crash is blind. -/
theorem blind_crash : Blind (crash : Proc τ α) := fun _ _ _ _ h ↦ (exec_crash h).elim

/-- A blind routine on a part of the object. -/
theorem Blind.onPart {view : τ → σ} {put : σ → τ → τ} {m : Proc σ α} (hm : Blind m) :
    Blind (onPart view put m) := by
  intro t tr a t' h
  obtain ⟨u, hu, rfl⟩ := exec_onPart.mp h
  obtain ⟨he, hany⟩ := hm hu
  exact ⟨he, fun e ↦ exec_onPart.mpr ⟨_, hany e, rfl⟩⟩

/-- A loop with a blind body. -/
theorem Blind.loop {body : β → Proc τ (β ⊕ α)} (h : ∀ b, Blind (body b)) (fuel : Nat) (b : β) :
    Blind (Routine.loop body fuel b) := by
  induction fuel generalizing b with
  | zero => exact fun _ _ _ _ hl ↦ hl.elim
  | succ fuel ih =>
    refine (h b).bind fun o ↦ ?_
    cases o with
    | inl b' => exact ih b'
    | inr a => exact blind_pure a

end

end Udtcp
