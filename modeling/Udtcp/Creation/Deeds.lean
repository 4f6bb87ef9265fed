import Udtcp.Posix.Recorded
import Udtcp.Server.Created

/-!
# What a creation acquires and releases

The mutexes, sockets and the object itself that the creation functions acquire
(`create_server.c:64–230`, `create_client.c:59–230`), what is released again by hand or through the
deletion functions, and the calls whose failure ends a creation.
-/

namespace Udtcp

open Interaction Routine

/-- What a creation can hold: an initialised mutex, an open descriptor, the structure. -/
inductive Holding where
  | mutex (addr : UInt64)
  | descriptor (fd : Fd)
  | object
  deriving DecidableEq, Repr

/-- What is seen of a creation: something acquired or released, a mutex that could not be
initialised, another call that failed, a callback. -/
inductive Deed where
  | acquired (h : Holding)
  | released (h : Holding)
  | mutexFailed
  | failed
  | called
  deriving DecidableEq, Repr

/-- What is seen of a call, if anything. Shutting a socket down and closing it may fail without
consequence. -/
def deedOf : (c : Call) → c.Reply → Option Deed
  | .gethostbyname _, none => some .failed
  | .sys .newServer, .ok _ => some (.acquired .object)
  | .sys .newClient, .ok _ => some (.acquired .object)
  | .freeServer, _ => some (.released .object)
  | .freeClient, _ => some (.released .object)
  | .mutexInit addr, true => some (.acquired (.mutex addr))
  | .mutexInit _, false => some .mutexFailed
  | .mutexDestroy addr, _ => some (.released (.mutex addr))
  | .sys (.socket _), .ok fd => some (.acquired (.descriptor fd.val))
  | .sys (.close fd), _ => some (.released (.descriptor fd))
  | .sys (.shutdown _), _ => none
  | .sys _, .error _ => some .failed
  | .callback _, _ => some .called
  | _, _ => none

/-- What is seen of a trace, oldest first. -/
def deeds (tr : Trace posix) : List Deed := tr.filterMap fun e ↦ deedOf e.call e.reply

/-- What was acquired, oldest first. -/
def acquired (ds : List Deed) : List Holding :=
  ds.filterMap fun
    | .acquired h => some h
    | _ => none

/-- What was released, oldest first. -/
def released (ds : List Deed) : List Holding :=
  ds.filterMap fun
    | .released h => some h
    | _ => none

/-- The descriptors of a list. -/
def descriptors (fds : List Fd) : List Holding := fds.map .descriptor

/-- A call failed whose failure ends a creation. -/
def Fails (ds : List Deed) : Prop := .mutexFailed ∈ ds ∨ .failed ∈ ds

/-- A mutex could not be initialised, but another one could. -/
def Orphans (ds : List Deed) : Prop :=
  .mutexFailed ∈ ds ∧ ∃ addr, .acquired (.mutex addr) ∈ ds

/-- The function gave up, everything acquired is released exactly once and nothing else is, and
nobody was called back. -/
structure CleansUp (n : Int) (ds : List Deed) : Prop where
  result : n = -1
  balanced : (released ds).Perm (acquired ds)
  quiet : .called ∉ ds

/-- A creation under way that holds `hs` and has not failed. -/
structure Pending (hs : List Holding) (ds : List Deed) : Prop where
  holds : acquired ds = hs
  kept : released ds = []
  going : ¬ Fails ds
  quiet : .called ∉ ds

/-- What a creation comes to that does not fail at its mutexes. -/
structure Concludes (n : Int) (ds : List Deed) : Prop where
  fails : Fails ds ↔ n = -1
  cleansUp : n = -1 → CleansUp n ds
  initialized : .mutexFailed ∉ ds

section

variable {hs : List Holding} {ds ds' : List Deed} {n : Int}

/-- What is acquired in two parts. -/
@[simp] theorem acquired_append (ds ds' : List Deed) :
    acquired (ds ++ ds') = acquired ds ++ acquired ds' := List.filterMap_append

/-- What is released in two parts. -/
@[simp] theorem released_append (ds ds' : List Deed) :
    released (ds ++ ds') = released ds ++ released ds' := List.filterMap_append

/-- Releasing acquires nothing. -/
@[simp] theorem acquired_map_released (hs : List Holding) : acquired (hs.map .released) = [] := by
  induction hs with
  | nil => rfl
  | cons h hs ih => exact ih

/-- What a list of acquisitions acquires. -/
@[simp] theorem acquired_map_acquired (hs : List Holding) : acquired (hs.map .acquired) = hs := by
  induction hs with
  | nil => rfl
  | cons h hs ih => exact congrArg (h :: ·) ih

/-- What a list of releases releases. -/
@[simp] theorem released_map_released (hs : List Holding) : released (hs.map .released) = hs := by
  induction hs with
  | nil => rfl
  | cons h hs ih => exact congrArg (h :: ·) ih

/-- Acquiring releases nothing. -/
@[simp] theorem released_map_acquired (hs : List Holding) : released (hs.map .acquired) = [] := by
  induction hs with
  | nil => rfl
  | cons h hs ih => exact ih

@[simp] private theorem fails_append (ds ds' : List Deed) :
    Fails (ds ++ ds') ↔ Fails ds ∨ Fails ds' := by
  simp only [Fails, List.mem_append]
  exact or_or_or_comm

@[simp] private theorem not_fails_map_released (hs : List Holding) :
    ¬ Fails (hs.map .released) := by
  simp [Fails]

@[simp] private theorem not_fails_map_acquired (hs : List Holding) :
    ¬ Fails (hs.map .acquired) := by
  simp [Fails]

/-- More is acquired. -/
theorem Pending.acquire (h : Pending hs ds) (more : List Holding) :
    Pending (hs ++ more) (ds ++ more.map .acquired) where
  holds := by rw [acquired_append, h.holds, acquired_map_acquired]
  kept := by rw [released_append, h.kept, released_map_acquired, List.nil_append]
  going := by
    rw [fails_append]
    exact not_or.mpr ⟨h.going, not_fails_map_acquired more⟩
  quiet := by simpa using h.quiet

/-- A creation that gives up and releases what it holds cleans up. -/
theorem Pending.giveUp (h : Pending hs ds) (rs : List Holding) (hrs : rs.Perm hs) :
    Concludes (-1) (ds ++ .failed :: rs.map .released) where
  fails := by simp [Fails]
  cleansUp _ := by
    refine ⟨rfl, ?_, ?_⟩
    · rw [released_append, acquired_append, h.kept, h.holds, List.nil_append]
      change (released (rs.map .released)).Perm (hs ++ acquired (rs.map .released))
      rw [released_map_released, acquired_map_released, List.append_nil]
      exact hrs
    · simpa using h.quiet
  initialized := by
    have hgoing := h.going
    simp only [Fails, not_or] at hgoing
    simpa using hgoing.1

/-- A creation that succeeds has not failed, whatever it releases at its end. -/
theorem Pending.done (h : Pending hs ds) (rs : List Holding) :
    Concludes 0 (ds ++ rs.map .released) where
  fails := by simpa using h.going
  cleansUp hn := by cases hn
  initialized := by
    have hgoing := h.going
    simp only [Fails, not_or] at hgoing
    simpa using hgoing.1

end

/-! ### Shared routines -/

section

variable {τ α : Type} {t : Thread τ} {ds : List Deed} {Q : α → Thread τ → List Deed → Prop}

/-- A system call that is seen only when it fails. -/
theorem must_tried_syscall {c : SysCall} {f : Except Errno c.Result → Proc τ α}
    (hok : ∀ r, deedOf (.sys c) (.ok r) = none)
    (herror : ∀ e, deedOf (.sys c) (.error e) = some .failed)
    (hf : ∀ r, Must (written deedOf) (f (.ok r)) t ds Q)
    (hgone : ∀ e t', t'.self = t.self → Must (written deedOf) (f (.error e)) t'
    (ds ++ [.failed]) Q) :
    Must (written deedOf) (syscall c >>= f) t ds Q := by
  refine must_written_syscall fun r ↦ ?_
  cases r with
  | error e =>
    rw [herror]
    exact hgone e _ rfl
  | ok r =>
    rw [hok, Option.toList_none, List.append_nil]
    exact hf r

/-- Rule for binding a socket: it is bound, or the creation has failed. -/
theorem must_tried_bindSocket {fd : Fd} {addr : SockaddrIn} {f : Option SockaddrIn → Proc τ α}
    (hf : ∀ name, Must (written deedOf) (f (some name)) t ds Q)
    (hgone : ∀ t', t'.self = t.self → Must (written deedOf) (f none) t' (ds ++ [.failed]) Q) :
    Must (written deedOf) (bindSocket fd addr >>= f) t ds Q := by
  refine must_bind ?_
  unfold bindSocket
  refine must_tried_syscall (fun _ ↦ rfl) (fun _ ↦ rfl) (fun _ ↦ ?_) fun e t' ht ↦
    must_pure (hgone t' ht)
  refine must_tried_syscall (fun _ ↦ rfl) (fun _ ↦ rfl) (fun name ↦ must_pure (hf name)) ?_
  exact fun e t' ht ↦ must_pure (hgone t' ht)

/-- Rule for adding an option, in the same way. -/
theorem must_tried_addOption {fd : Fd} {option : Nat} {f : Int → Proc τ α}
    (hf : Must (written deedOf) (f 0) t ds Q)
    (hgone : ∀ t', t'.self = t.self → Must (written deedOf) (f (-1)) t' (ds ++ [.failed]) Q) :
    Must (written deedOf) (udtcpSocketAddOption fd option >>= f) t ds Q := by
  refine must_bind ?_
  unfold udtcpSocketAddOption
  refine must_tried_syscall (fun _ ↦ rfl) (fun _ ↦ rfl) (fun flags ↦ ?_) fun e t' ht ↦
    must_pure (hgone t' ht)
  refine must_tried_syscall (fun _ ↦ rfl) (fun _ ↦ rfl) (fun _ ↦ must_pure hf) ?_
  exact fun e t' ht ↦ must_pure (hgone t' ht)

/-- Rule for setting options, in the same way. -/
theorem must_tried_setOptions {option : SocketOption} {fds : List Fd} {f : Bool → Proc τ α}
    (hf : Must (written deedOf) (f true) t ds Q)
    (hgone : ∀ t', t'.self = t.self → Must (written deedOf) (f false) t' (ds ++ [.failed]) Q) :
    Must (written deedOf) (setOptions option fds >>= f) t ds Q := by
  refine must_bind ?_
  induction fds with
  | nil => exact must_pure hf
  | cons fd fds ih =>
    unfold setOptions
    exact must_tried_syscall (fun _ ↦ rfl) (fun _ ↦ rfl) (fun _ ↦ ih) fun e t' ht ↦
      must_pure (hgone t' ht)

/-- Closing the descriptors of a list. -/
theorem must_closeDescriptors {fds : List Fd} {f : Unit → Proc τ α}
    (h : ∀ t', t'.self = t.self → Must (written deedOf) (f ()) t'
      (ds ++ (descriptors fds).map .released) Q) :
    Must (written deedOf) (closeAll fds >>= f) t ds Q := by
  refine must_bind ?_
  induction fds generalizing t ds with
  | nil =>
    refine must_pure ?_
    simpa [descriptors] using h t rfl
  | cons fd fds ih =>
    unfold closeAll
    refine must_written_syscall fun r ↦ ih fun t' ht ↦ ?_
    rw [List.append_assoc]
    exact h t' (ht.trans (Thread.note_self _ _))

/-- Rule for closing an open socket: its descriptor is released. -/
theorem must_closeOpen {fd : Fd} {f : Unit → Proc τ α} (hfd : 0 ≤ fd)
    (h : ∀ t', t'.self = t.self → Must (written deedOf) (f ()) t'
      (ds ++ [.released (.descriptor fd)]) Q) :
    Must (written deedOf) (closeIfOpen fd >>= f) t ds Q := by
  have hopen : fd ≠ -1 := by
    rintro rfl
    exact absurd hfd (by decide)
  refine must_bind (must_ite (fun _ ↦ ?_) fun hshut ↦ absurd hopen hshut)
  exact must_written_syscall fun r ↦ must_pure (h _ (Thread.note_self _ _))

/-- Rule for freeing a buffer, which is not part of what a creation holds. -/
theorem must_freeIf {k : Nat} {b : Option Block} {p : Proc τ α}
    (h : Must (written deedOf) p t ds Q) : Must (written deedOf) (do
      if 0 < k then
        freeBlock b
      else
        pure ()
      p) t ds Q := by
  refine must_ite (fun _ ↦ ?_) fun _ ↦ h
  cases b with
  | none => exact must_bind (must_pure h)
  | some b =>
    refine must_written_issue fun r ↦ ?_
    rw [show deedOf (.freeBuffer b.ptr) r = none from rfl, Option.toList_none, List.append_nil]
    exact h

end

end Udtcp
