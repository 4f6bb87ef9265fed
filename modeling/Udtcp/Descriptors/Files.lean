import Udtcp.Base.StringInfos
import Udtcp.Interaction.Typestate

/-!
# Descriptors and their status flags

The numbers `socket` and `accept` hand out, each with its status flags from there to its `close`. A
call may name open numbers only, and one that waits for input, `accept`, `recv` or `recvfrom`, only
numbers with `O_NONBLOCK`: of all calls a `poll` alone may wait.
-/

namespace Udtcp

open Interaction Routine

/-- What happens to a descriptor: it is handed out, named by a call, named by one that would wait
for input, given other status flags, or closed. -/
inductive FileEvent where
  | opened
  | used
  | awaited
  | flagged (flags : Nat)
  | closed
  deriving DecidableEq, Repr

/-- The automaton of a descriptor. Its state is its status flags, if it is open. -/
def fileNext : Option Nat → FileEvent → Option (Option Nat)
  | none, .opened => some (some 0)
  | some flags, .used => some (some flags)
  | some flags, .awaited => if flags &&& O_NONBLOCK = 0 then none else some (some flags)
  | some _, .flagged flags => some (some flags)
  | some _, .closed => some none
  | _, _ => none

/-- What a call does to descriptors. -/
def fileEvents : (c : Call) → c.Reply → List (Fd × FileEvent)
  | .sys (.socket _), .ok fd => [(fd.val, .opened)]
  | .sys (.setsockopt fd _), _ => [(fd, .used)]
  | .sys (.bind fd _), _ => [(fd, .used)]
  | .sys (.getsockname fd), _ => [(fd, .used)]
  | .sys (.listen fd _), _ => [(fd, .used)]
  | .sys (.connect fd _), _ => [(fd, .used)]
  | .sys (.accept fd), .ok (fd', _) => [(fd, .awaited), (fd'.val, .opened)]
  | .sys (.accept fd), .error _ => [(fd, .awaited)]
  | .sys (.getfl fd), _ => [(fd, .used)]
  | .sys (.setfl fd flags), .ok _ => [(fd, .flagged flags)]
  | .sys (.setfl fd _), .error _ => [(fd, .used)]
  | .sys (.poll fds _), _ => fds.map fun p ↦ (p.fd, .used)
  | .sys (.send fd _), _ => [(fd, .used)]
  | .sys (.sendto fd _ _), _ => [(fd, .used)]
  | .sys (.recv fd _ _), _ => [(fd, .awaited)]
  | .sys (.recvfrom fd _ _ _), _ => [(fd, .awaited)]
  | .sys (.shutdown fd), _ => [(fd, .used)]
  | .sys (.close fd), _ => [(fd, .closed)]
  | _, _ => []

/-- The descriptors of a process, as far as the library has to do with them. -/
abbrev Files := Custody Fd (Option Nat)

/-- What is promised of the replies: a number that is handed out is not open, a record that comes in
has its full length or ends in front of `tcp_socket`, and a name that is found has the length that
host names are limited to. -/
def FilePromise (k : Files) : (c : Call) → c.Reply → Prop
  | .sys (.socket _), .ok fd => k.state fd.val = none
  | .sys (.accept _), .ok (fd, _) => k.state fd.val = none
  | .sys (.recv _ .record _), .ok bs =>
    bs.val.length = UdtcpInfos.sizeof ∨ bs.val.length ≤ UdtcpInfos.tcpSocketOffset
  | .gethostbyaddr _, some name => NameFits name
  | _, _ => True

/-- The system, seen through the descriptors. -/
def filesKernel : Kernel posix Files := custodian fileNext fileEvents FilePromise

/-- The flags of an open descriptor that does not wait for input. -/
def Nonblocking (flags : Option Nat) : Prop := ∃ n, flags = some n ∧ n &&& O_NONBLOCK ≠ 0

/-- A descriptor that does not wait is open. -/
theorem Nonblocking.isSome {flags : Option Nat} (h : Nonblocking flags) : flags.isSome := by
  obtain ⟨n, rfl, -⟩ := h
  rfl

/-- Setting `O_NONBLOCK` among other flags sets it. -/
theorem nonblocking_lor (flags : Nat) : Nonblocking (some (Nat.lor flags O_NONBLOCK)) := by
  refine ⟨_, rfl, ?_⟩
  have hand : Nat.lor flags O_NONBLOCK &&& O_NONBLOCK = (flags &&& O_NONBLOCK) ||| O_NONBLOCK := by
    have h := Nat.and_or_distrib_right flags O_NONBLOCK O_NONBLOCK
    rwa [Nat.and_self] at h
  rw [hand]
  have hle : O_NONBLOCK ≤ (flags &&& O_NONBLOCK) ||| O_NONBLOCK := Nat.right_le_or
  have hpos : 0 < O_NONBLOCK := by decide
  omega

/-- Using an open descriptor leaves it open. -/
theorem fileNext_used {flags : Option Nat} (h : flags.isSome) :
    fileNext flags .used = some flags := by
  obtain ⟨n, rfl⟩ := Option.isSome_iff_exists.mp h
  rfl

private theorem fileNext_awaited {flags : Option Nat} (h : Nonblocking flags) :
    fileNext flags .awaited = some flags := by
  obtain ⟨n, rfl, hn⟩ := h
  exact if_neg hn

private theorem fileNext_flagged {flags : Option Nat} (h : flags.isSome) (n : Nat) :
    fileNext flags (.flagged n) = some (some n) := by
  obtain ⟨n, rfl⟩ := Option.isSome_iff_exists.mp h
  rfl

private theorem fileNext_closed {flags : Option Nat} (h : flags.isSome) :
    fileNext flags .closed = some none := by
  obtain ⟨n, rfl⟩ := Option.isSome_iff_exists.mp h
  rfl

namespace Files

variable {k : Files} {fd : Fd}

/-- Other flags for one number, or none. -/
def set (k : Files) (fd : Fd) (flags : Option Nat) : Files :=
  { k with state := Function.update k.state fd flags }

@[simp] private theorem set_sound (flags : Option Nat) : (k.set fd flags).sound = k.sound := rfl

/-- The state of a descriptor that was set. -/
@[simp] theorem set_self (flags : Option Nat) : (k.set fd flags).state fd = flags :=
  Function.update_self ..

/-- The state of another descriptor. -/
theorem set_of_ne {f : Fd} (h : f ≠ fd) (flags : Option Nat) :
    (k.set fd flags).state f = k.state f := Function.update_of_ne h ..

@[simp] private theorem set_set (flags flags' : Option Nat) :
    (k.set fd flags).set fd flags' = k.set fd flags' := by
  simp [set]

/-- A call that names open numbers only, and waits for those only that do not wait. -/
def Admits (k : Files) (e : Event posix) : Prop :=
  ∀ x ∈ fileEvents e.call e.reply, fileNext (k.state x.1) x.2 = some (k.state x.1)

/-- A call that names no number. -/
theorem admits_of_nil {e : Event posix} (h : fileEvents e.call e.reply = []) : k.Admits e := by
  rw [Admits, h]
  exact List.forall_mem_nil _

/-- An open descriptor may be used. -/
theorem admits_used {e : Event posix} (h : fileEvents e.call e.reply = [(fd, .used)])
    (hfd : (k.state fd).isSome) : k.Admits e := by
  rw [Admits, h]
  exact List.forall_mem_singleton.mpr (fileNext_used hfd)

/-- A descriptor that does not wait may be waited for. -/
theorem admits_awaited {e : Event posix} (h : fileEvents e.call e.reply = [(fd, .awaited)])
    (hfd : Nonblocking (k.state fd)) : k.Admits e := by
  rw [Admits, h]
  exact List.forall_mem_singleton.mpr (fileNext_awaited hfd)

end Files

section

variable {τ α : Type} {t : Thread τ} {k k' : Files} {fd : Fd}

/-- Calls that are admitted leave everything as it is. -/
theorem filesKernel_eq_of_admits {c : Call} {r : c.Reply} (h : k.Admits ⟨c, r⟩)
    (hstep : filesKernel k c r k') : k' = k :=
  hstep.2.trans (Custody.follow_stay h)

variable {Q : α → Thread τ → Files → Prop}

/-- What only makes admitted calls leaves the descriptors alone. -/
theorem must_admitted {p : Proc τ α} (hp : Emits k.Admits p)
    (hQ : ∀ tr a t', Exec p t tr a t' → Q a t' k) : Must filesKernel p t k Q :=
  must_stay hp hQ

/-- Rule for an admitted system call. -/
theorem must_admitted_syscall {c : SysCall} {f : Except Errno c.Result → Proc τ α}
    (hc : ∀ r, k.Admits ⟨.sys c, r⟩)
    (hf : ∀ r, FilePromise k (.sys c) r → Must filesKernel (f r) (t.note r) k Q) :
    Must filesKernel (syscall c >>= f) t k Q :=
  must_syscall_bind fun r _ hstep ↦ filesKernel_eq_of_admits (hc r) hstep ▸ hf r hstep.1

/-- Rule for an admitted call with a reply. -/
theorem must_admitted_request {c : Call} {f : c.Reply → Proc τ α} (hc : ∀ r, k.Admits ⟨c, r⟩)
    (hf : ∀ r, FilePromise k c r → Must filesKernel (f r) t k Q) :
    Must filesKernel (request c >>= f) t k Q :=
  must_request_bind fun r _ hstep ↦ filesKernel_eq_of_admits (hc r) hstep ▸ hf r hstep.1

/-- Rule for an admitted call without a reply. -/
theorem must_admitted_issue {c : Call} {f : Unit → Proc τ α} (hc : ∀ r, k.Admits ⟨c, r⟩)
    (hf : Must filesKernel (f ()) t k Q) : Must filesKernel (issue c >>= f) t k Q :=
  must_issue_bind fun r _ hstep ↦ filesKernel_eq_of_admits (hc r) hstep ▸ hf

/-- A number is closed, whatever `close` reports. -/
theorem must_close {f : Except Errno Unit → Proc τ α} (hfd : (k.state fd).isSome)
    (hf : ∀ r, Must filesKernel (f r) (t.note r) (k.set fd none) Q) :
    Must filesKernel (syscall (.close fd) >>= f) t k Q := by
  refine must_syscall_bind fun r k₁ hstep ↦ ?_
  have hset : k₁ = k.set fd none := hstep.2.trans (Custody.enter_eq (fileNext_closed hfd))
  exact hset ▸ hf r

/-- A socket is opened. -/
theorem must_socket {kind : SocketKind} {f : Except Errno Descriptor → Proc τ α}
    (hfail : ∀ e, Must filesKernel (f (.error e)) (t.note (.error e : Except Errno Descriptor)) k Q)
    (hopen : ∀ fd : Descriptor, k.state fd.val = none →
      Must filesKernel (f (.ok fd)) t (k.set fd.val (some 0)) Q) :
    Must filesKernel (syscall (.socket kind) >>= f) t k Q := by
  refine must_syscall_bind fun r k₁ hstep ↦ ?_
  cases r with
  | error e =>
    obtain rfl : k₁ = k := hstep.2
    exact hfail e
  | ok fd =>
    have hnew : k.state fd.val = none := hstep.1
    have hset : k₁ = k.set fd.val (some 0) :=
      hstep.2.trans (Custody.enter_eq (by rw [hnew]; rfl))
    exact hset ▸ hopen fd hnew

/-- A connection is taken on a socket that does not wait for one. -/
theorem must_accept {f : Except Errno (Descriptor × SockaddrIn) → Proc τ α}
    (hfd : Nonblocking (k.state fd))
    (hfail : ∀ e, Must filesKernel (f (.error e))
      (t.note (.error e : Except Errno (Descriptor × SockaddrIn))) k Q)
    (hopen : ∀ a : Descriptor × SockaddrIn, k.state a.1.val = none →
      Must filesKernel (f (.ok a)) t (k.set a.1.val (some 0)) Q) :
    Must filesKernel (syscall (.accept fd) >>= f) t k Q := by
  have hwait : k.enter fileNext (fd, .awaited) = k := Custody.enter_stay (fileNext_awaited hfd)
  refine must_syscall_bind fun r k₁ hstep ↦ ?_
  cases r with
  | error e =>
    obtain rfl : k₁ = k := hstep.2.trans hwait
    exact hfail e
  | ok a =>
    have hnew : k.state a.1.val = none := hstep.1
    have hset : k₁ = k.set a.1.val (some 0) := by
      refine hstep.2.trans ?_
      change (k.enter fileNext (fd, .awaited)).enter fileNext (a.1.val, .opened) = _
      rw [hwait, Custody.enter_eq (by rw [hnew]; rfl)]
      rfl
    exact hset ▸ hopen a hnew

/-- Setting `O_NONBLOCK` on an open number either fails or leaves it non-blocking. -/
theorem must_addNonblock (hfd : (k.state fd).isSome) :
    Must filesKernel (udtcpSocketAddOption fd O_NONBLOCK : Proc τ Int) t k fun n t' k' ↦
      t'.self = t.self ∧
        ((n = -1 ∧ k' = k) ∨ (n = 0 ∧ ∃ flags, Nonblocking flags ∧ k' = k.set fd flags)) := by
  unfold udtcpSocketAddOption
  refine must_admitted_syscall (fun r ↦ Files.admits_used rfl hfd) fun r _ ↦ ?_
  cases r with
  | error e => exact must_pure ⟨rfl, .inl ⟨rfl, rfl⟩⟩
  | ok flags =>
    refine must_syscall_bind fun r k₁ hstep ↦ ?_
    cases r with
    | error e =>
      obtain rfl : k₁ = k := filesKernel_eq_of_admits (Files.admits_used rfl hfd) hstep
      exact must_pure ⟨rfl, .inl ⟨rfl, rfl⟩⟩
    | ok u =>
      have hset : k₁ = k.set fd (some (Nat.lor flags O_NONBLOCK)) :=
        hstep.2.trans (Custody.enter_eq (fileNext_flagged hfd _))
      exact must_pure ⟨rfl, .inr ⟨rfl, _, nonblocking_lor flags, hset⟩⟩

end

end Udtcp
