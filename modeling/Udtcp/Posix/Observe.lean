import Udtcp.Posix.Call

/-!
# Reading a trace

What an observer outside the process sees of one call: plain data, with the dependency of
the reply on the call taken away. Environments and claims about whole traces are stated
on these views.
-/

namespace Udtcp

open Interaction

/-- A reception from a datagram socket: what was asked for and what came. -/
structure Reception where
  fd : Fd
  len : Nat
  peek : Bool
  result : Except Errno (List UInt8 × SockaddrIn)

/-- The datagram reception a call is, if it is one. -/
def receptionOf : (c : Call) → c.Reply → Option Reception
  | .sys (.recvfrom fd _ len peek), .error e => some ⟨fd, len, peek, .error e⟩
  | .sys (.recvfrom fd _ len peek), .ok r => some ⟨fd, len, peek, .ok (r.1.val, r.2)⟩
  | _, _ => none

/-- A reception from a stream socket: what was asked for and what came. -/
structure StreamRecv where
  fd : Fd
  len : Nat
  result : Except Errno (List UInt8)

/-- The stream reception a call is, if it is one. -/
def streamRecvOf : (c : Call) → c.Reply → Option StreamRecv
  | .sys (.recv fd _ len), .error e => some ⟨fd, len, .error e⟩
  | .sys (.recv fd _ len), .ok bs => some ⟨fd, len, .ok bs.val⟩
  | _, _ => none

/-- The call is a system call. -/
def Call.isSys : Call → Bool
  | .sys _ => true
  | _ => false

/-- The user callback a call is, if it is one. -/
def callbackOf : Call → Option Callback
  | .callback c => some c
  | _ => none

/-- Data handed to the user. -/
def Callback.IsData : Callback → Prop
  | .receiveTcp .. => True
  | .receiveUdp .. => True
  | _ => False

/-- The user callbacks of a trace, oldest first. -/
def callbacksOf (tr : Trace posix) : List Callback := tr.filterMap fun e ↦ callbackOf e.call

/-- The callbacks of two parts of a trace. -/
@[simp] theorem callbacksOf_append (tr₁ tr₂ : Trace posix) :
    callbacksOf (tr₁ ++ tr₂) = callbacksOf tr₁ ++ callbacksOf tr₂ := List.filterMap_append

/-- A trace without callbacks. -/
theorem callbacksOf_eq_nil {tr : Trace posix} (h : ∀ e ∈ tr, callbackOf e.call = none) :
    callbacksOf tr = [] :=
  List.filterMap_eq_nil_iff.mpr h

/-- An access to a send structure. -/
inductive SendAccess where
  | load (addr : UInt64) (value : UdtcpSend)
  | store (addr : UInt64) (value : UdtcpSend)

/-- The access to a send structure a call is, if it is one. -/
def sendAccessOf : (c : Call) → c.Reply → Option SendAccess
  | .loadSend addr, value => some (.load addr value)
  | .storeSend addr value, _ => some (.store addr value)
  | _, _ => none

/-- A `send` on a stream socket: the bytes handed over and how many of them were taken. -/
structure Write where
  fd : Fd
  bytes : List UInt8
  count : Nat
  deriving DecidableEq, Repr

/-- The bytes a write put on the stream. -/
def Write.accepted (w : Write) : List UInt8 := w.bytes.take w.count

/-- The write a call is, if it is one; a failed one takes nothing. -/
def writeOf : (c : Call) → c.Reply → Option Write
  | .sys (.send fd bytes), .ok n => some ⟨fd, bytes, n.val⟩
  | .sys (.send fd bytes), .error _ => some ⟨fd, bytes, 0⟩
  | _, _ => none

/-- The writes on socket `fd`, oldest first. -/
def writes (fd : Fd) (tr : Trace posix) : List Write :=
  tr.filterMap fun e ↦ (writeOf e.call e.reply).filter (·.fd = fd)

/-- What is written in two parts of a trace. -/
@[simp] theorem writes_append (fd : Fd) (tr₁ tr₂ : Trace posix) :
    writes fd (tr₁ ++ tr₂) = writes fd tr₁ ++ writes fd tr₂ := List.filterMap_append

/-- A trace that writes nothing. -/
theorem writes_eq_nil {fd : Fd} {tr : Trace posix} (h : ∀ e ∈ tr, writeOf e.call e.reply = none) :
    writes fd tr = [] := by
  apply List.filterMap_eq_nil_iff.mpr
  intro e he
  rw [h e he]
  rfl

/-- A `send` that succeeds is one write. -/
theorem writes_send_ok {fd : Fd} {bytes : List UInt8} (n : (SysCall.send fd bytes).Result) :
    writes fd [⟨.sys (.send fd bytes), .ok n⟩] = [⟨fd, bytes, n.val⟩] := by
  have hf : (some (⟨fd, bytes, n.val⟩ : Write)).filter (·.fd = fd) = some ⟨fd, bytes, n.val⟩ := by
    simp
  exact List.filterMap_cons_some hf

/-- What is seen of the life of connections: descriptors that come in, the record of a peer, the
names of addresses, descriptors that are shut down or closed, whatever the answer, and records
handed to the user. -/
inductive Sighting where
  | opened (fd : Fd)
  | accepted (fd : Fd) (addr : SockaddrIn)
  | record (fd : Fd) (bs : List UInt8)
  | named (name : List UInt8)
  | shut (fd : Fd)
  | closed (fd : Fd)
  | connected (slot : Nat) (infos : UdtcpInfos)

/-- What is seen of a call, if anything. -/
def sightingOf : (c : Call) → c.Reply → Option Sighting
  | .sys (.socket _), .ok fd => some (.opened fd.val)
  | .sys (.accept _), .ok a => some (.accepted a.1.val a.2)
  | .sys (.recv fd .record _), .ok bs => some (.record fd bs.val)
  | .gethostbyaddr _, some name => some (.named name)
  | .sys (.shutdown fd), _ => some (.shut fd)
  | .sys (.close fd), _ => some (.closed fd)
  | .callback (.connect slot infos), _ => some (.connected slot infos)
  | _, _ => none

/-- A name that is seen fits if the answer does. -/
theorem AnswerFits.name {c : Call} {r : c.Reply} {name : List UInt8} (h : AnswerFits c r)
    (hname : sightingOf c r = some (.named name)) : NameFits name := by
  cases c with
  | gethostbyaddr key =>
    cases r with
    | none => cases hname
    | some text =>
      obtain rfl := Sighting.named.inj (Option.some.inj hname)
      exact h
  | callback cb => cases cb <;> cases hname
  | sys c =>
    cases c with
    | recv fd target len => cases target <;> cases r <;> cases hname
    | _ => cases r <;> cases hname
  | _ => cases hname

/-- What is seen of a trace, oldest first. -/
def sightings (tr : Trace posix) : List Sighting := tr.filterMap fun e ↦ sightingOf e.call e.reply

@[simp] private theorem sightings_nil : sightings [] = [] := rfl

/-- What is seen of two parts of a trace. -/
@[simp] theorem sightings_append (tr₁ tr₂ : Trace posix) :
    sightings (tr₁ ++ tr₂) = sightings tr₁ ++ sightings tr₂ := List.filterMap_append

/-- What is seen of the first event and of the others. -/
theorem sightings_cons (e : Event posix) (tr : Trace posix) :
    sightings (e :: tr) = (sightingOf e.call e.reply).toList ++ sightings tr := by
  rw [sightings, List.filterMap_cons]
  cases sightingOf e.call e.reply <;> rfl

/-- A trace that shows nothing. -/
theorem sightings_eq_nil {tr : Trace posix} (h : ∀ e ∈ tr, sightingOf e.call e.reply = none) :
    sightings tr = [] :=
  List.filterMap_eq_nil_iff.mpr h

/-- The descriptors `accept` handed out, oldest first. -/
def acceptedFds (tr : Trace posix) : List Fd :=
  (sightings tr).filterMap fun
    | .accepted fd _ => some fd
    | _ => none

/-- The descriptors closed, oldest first. -/
def closedFds (tr : Trace posix) : List Fd :=
  (sightings tr).filterMap fun
    | .closed fd => some fd
    | _ => none

/-- The byte strings received as the record of a peer, oldest first. -/
def receivedRecords (tr : Trace posix) : List (List UInt8) :=
  (sightings tr).filterMap fun
    | .record _ bs => some bs
    | _ => none

/-- The descriptors accepted in two parts of a trace. -/
@[simp] theorem acceptedFds_append (tr₁ tr₂ : Trace posix) :
    acceptedFds (tr₁ ++ tr₂) = acceptedFds tr₁ ++ acceptedFds tr₂ := by
  rw [acceptedFds, sightings_append, List.filterMap_append]
  rfl

/-- An allocation that failed. -/
def AllocationFailed : Event posix → Prop
  | ⟨.sys (.newBuffer _), .error _⟩ => True
  | _ => False

/-- No allocation in the trace failed. -/
def AllocationsSucceed (tr : Trace posix) : Prop := ∀ e ∈ tr, ¬ AllocationFailed e

/-- No allocation fails in an empty trace. -/
@[simp] theorem allocationsSucceed_nil : AllocationsSucceed [] := by simp [AllocationsSucceed]

/-- Allocations succeed in the first event and in the others. -/
@[simp] theorem allocationsSucceed_cons {e : Event posix} {tr : Trace posix} :
    AllocationsSucceed (e :: tr) ↔ ¬ AllocationFailed e ∧ AllocationsSucceed tr := by
  simp [AllocationsSucceed]

/-- Allocations succeed in both parts of a trace. -/
@[simp] theorem allocationsSucceed_append {tr₁ tr₂ : Trace posix} :
    AllocationsSucceed (tr₁ ++ tr₂) ↔ AllocationsSucceed tr₁ ∧ AllocationsSucceed tr₂ := by
  simp only [AllocationsSucceed, List.mem_append]
  exact ⟨fun h ↦ ⟨fun e he ↦ h e (.inl he), fun e he ↦ h e (.inr he)⟩,
    fun h e he ↦ he.elim (h.1 e) (h.2 e)⟩

end Udtcp
