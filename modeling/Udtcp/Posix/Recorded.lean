import Udtcp.Posix.Call

/-!
# Routines whose calls are written down

The rules of `Must` for the recorder of an arbitrary view: what is seen of each call is known as
soon as the call is answered.
-/

namespace Udtcp

open Interaction Routine

section

variable {τ σ α β : Type} {view : (c : Call) → c.Reply → Option β} {t : Thread τ} {seen : List β}
  {Q : α → Thread τ → List β → Prop}

/-- The surroundings that answer anything, with what `view` shows written down. -/
abbrev written (view : (c : Call) → c.Reply → Option β) : Kernel posix (List β) :=
  recorder (S := posix) view

/-- Nothing is seen of the call. -/
def Unviewed (view : (c : Call) → c.Reply → Option β) (e : Event posix) : Prop :=
  view e.call e.reply = none

/-- Rule for a system call, with what it shows. -/
theorem must_written_syscall {c : SysCall} {f : Except Errno c.Result → Proc τ α}
    (h : ∀ r, Must (written view) (f r) (t.note r) (seen ++ (view (.sys c) r).toList) Q) :
    Must (written view) (syscall c >>= f) t seen Q :=
  must_syscall_bind fun r _ hk ↦ hk ▸ h r

/-- Rule for a call with a reply, with what it shows. -/
theorem must_written_request {c : Call} {f : c.Reply → Proc τ α}
    (h : ∀ r, Must (written view) (f r) t (seen ++ (view c r).toList) Q) :
    Must (written view) (request c >>= f) t seen Q :=
  must_request_bind fun r _ hk ↦ hk ▸ h r

/-- Rule for a call without a reply, with what it shows. -/
theorem must_written_issue {c : Call} {f : Unit → Proc τ α}
    (h : ∀ r, Must (written view) (f ()) t (seen ++ (view c r).toList) Q) :
    Must (written view) (issue c >>= f) t seen Q :=
  must_issue_bind fun r _ hk ↦ hk ▸ h r

/-- A system call of which nothing is seen. -/
theorem must_unviewed_syscall {c : SysCall} {f : Except Errno c.Result → Proc τ α}
    (hc : ∀ r, view (.sys c) r = none)
    (h : ∀ r, Must (written view) (f r) (t.note r) seen Q) :
    Must (written view) (syscall c >>= f) t seen Q := by
  refine must_written_syscall fun r ↦ ?_
  rw [hc, Option.toList_none, List.append_nil]
  exact h r

/-- A routine that makes calls of which nothing is seen. -/
theorem must_unviewed {p : Proc τ α} (hp : Emits (Unviewed view) p)
    (h : ∀ tr a t', Exec p t tr a t' → Q a t' seen) : Must (written view) p t seen Q := by
  intro tr a t' seen' hrun hseen
  have hnone : (tr.filterMap fun e ↦ view e.call e.reply) = [] :=
    List.filterMap_eq_nil_iff.mpr (hp t tr a t' hrun)
  rw [accepts_recorder.mp hseen, hnone, List.append_nil]
  exact h tr a t' hrun

/-- The same, in front of more. -/
theorem must_unviewed_bind {p : Proc τ σ} {f : σ → Proc τ α} (hp : Emits (Unviewed view) p)
    (h : ∀ tr a t', Exec p t tr a t' → Must (written view) (f a) t' seen Q) :
    Must (written view) (p >>= f) t seen Q :=
  must_bind (must_unviewed hp h)

/-- What is recorded behind a run is what is seen of its trace. -/
theorem exec_written {p : Proc τ α} (h : Must (written view) p t [] Q) {tr : Trace posix}
    {a : α} {t' : Thread τ} (hrun : Exec p t tr a t') :
    Q a t' (tr.filterMap fun e ↦ view e.call e.reply) :=
  h tr a t' _ hrun (accepts_recorder.mpr rfl)

end

end Udtcp
