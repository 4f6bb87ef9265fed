import Udtcp.Receive.Roles

/-!
# Which calls the receivers make

A property of calls that holds of the waits, receptions, allocations and callbacks of a
receiver holds of every call it makes.
-/

namespace Udtcp

open Interaction Routine

variable {P : Event posix → Prop}

/-- What a property must hold of to hold of every call of a receiver of datagrams on socket `fd`. -/
structure DatagramCalls (P : Event posix → Prop) (fd : Fd) : Prop where
  peek : ∀ r, P ⟨.sys (.recvfrom fd .word 4 true), r⟩
  take : ∀ ptr cap offset len r, P ⟨.sys (.recvfrom fd (.buffer ptr cap offset) len false), r⟩
  newBuffer : ∀ size r, P ⟨.sys (.newBuffer size), r⟩
  freeBuffer : ∀ ptr r, P ⟨.freeBuffer ptr, r⟩

/-- What a property must hold of to hold of every call of a receiver on socket `fd`. -/
structure ReceiverCalls (P : Event posix → Prop) (fd : Fd) : Prop extends DatagramCalls P fd where
  poll : ∀ r, P ⟨.sys (.poll [⟨fd, POLLIN, 0⟩] (-1)), r⟩
  recvWord : ∀ r, P ⟨.sys (.recv fd .word 4), r⟩
  recvBuffer : ∀ ptr cap offset len r, P ⟨.sys (.recv fd (.buffer ptr cap offset) len), r⟩

/-- What a property must hold of to hold of every call of a receiver of messages on socket `fd`. -/
structure StreamCalls (P : Event posix → Prop) (fd : Fd) : Prop where
  newBuffer : ∀ size r, P ⟨.sys (.newBuffer size), r⟩
  freeBuffer : ∀ ptr r, P ⟨.freeBuffer ptr, r⟩
  poll : ∀ r, P ⟨.sys (.poll [⟨fd, POLLIN, 0⟩] (-1)), r⟩
  recvWord : ∀ r, P ⟨.sys (.recv fd .word 4), r⟩
  recvBuffer : ∀ ptr cap offset len r, P ⟨.sys (.recv fd (.buffer ptr cap offset) len), r⟩

private theorem ReceiverCalls.toStreamCalls {fd : Fd} (h : ReceiverCalls P fd) : StreamCalls P fd :=
  ⟨h.newBuffer, h.freeBuffer, h.poll, h.recvWord, h.recvBuffer⟩

section

variable {fd : Fd}

private theorem emits_growBuffer (hnew : ∀ size r, P ⟨.sys (.newBuffer size), r⟩)
    (hfree : ∀ ptr r, P ⟨.freeBuffer ptr, r⟩) (need : Nat) : Emits P (growBuffer need) := by
  unfold growBuffer
  refine emits_self.bind fun b ↦ .ite ?_ (emits_pure _)
  refine (emits_syscall fun r ↦ hnew _ r).bind fun r ↦ ?_
  cases r with
  | error e => exact emits_pure _
  | ok block =>
    refine emits_self.bind fun b ↦ ?_
    cases b.bufferData with
    | none => exact (emits_update _).bind fun _ ↦ emits_pure _
    | some old =>
      exact (emits_issue fun r ↦ hfree _ r).bind fun _ ↦
        (emits_update _).bind fun _ ↦ emits_pure _

section

variable (hP : DatagramCalls P fd)

include hP

/-- The calls of the UDP receiver. -/
theorem emits_receiveUdpWith {route : Route}
    (hd : ∀ addr f, route addr = some (some f) → ∀ data u, P ⟨.callback (f data), u⟩)
    (success : Nat → Int) : Emits P (receiveUdpWith fd route success) := by
  unfold receiveUdpWith
  refine (emits_syscall fun r ↦ hP.peek r).bind fun size ↦ ?_
  cases size with
  | error e => exact emits_pure _
  | ok size =>
    refine .ite (emits_pure _) (.ite (emits_pure _) (Emits.bind ?_ fun ok ↦ ?_))
    · exact emits_growBuffer hP.newBuffer hP.freeBuffer _
    refine .ite ?_ (emits_pure _)
    unfold takeDatagram
    refine emits_self.bind fun b ↦ (emits_syscall fun r ↦ hP.take _ _ _ _ r).bind fun r ↦ ?_
    cases r with
    | error e => exact emits_pure _
    | ok r =>
      refine (emits_update _).bind fun _ ↦ ?_
      refine .ite (emits_pure _) (.ite (emits_pure _) (.ite (emits_pure _) ?_))
      cases hroute : route r.2 with
      | none => exact emits_pure _
      | some deliver =>
        cases deliver with
        | none => exact emits_pure _
        | some f =>
          exact emits_self.bind fun b ↦
            (emits_issue fun u ↦ hd r.2 f hroute _ u).bind fun _ ↦ emits_pure _

end

section

variable (hP : StreamCalls P fd)

include hP

private theorem emits_pollIn {τ : Type} : Emits P (pollIn fd : Proc τ Int) :=
  (emits_syscall fun r ↦ hP.poll r).bind fun _ ↦ emits_pure _

private theorem emits_recvBuffer (offset len : Nat) : Emits P (recvBuffer fd offset len) := by
  unfold recvBuffer
  refine emits_self.bind fun b ↦ ?_
  refine (emits_syscall fun r ↦ hP.recvBuffer _ _ _ _ r).bind fun r ↦ ?_
  cases r with
  | error e => exact emits_pure _
  | ok bs => exact (emits_update _).bind fun _ ↦ emits_pure _

private theorem emits_reassemble (dataSize rounds have₀ : Nat) :
    Emits P (reassemble fd dataSize rounds have₀) := by
  induction rounds generalizing have₀ with
  | zero => exact emits_pure _
  | succ rounds ih =>
    unfold reassemble
    refine .ite (emits_pure _) ((emits_pollIn hP).bind fun n ↦ .ite (emits_pure _) ?_)
    refine (emits_recvBuffer hP _ _).bind fun k ↦ .ite (emits_pure _) (.ite (emits_pure _) ?_)
    exact ih _

/-- The calls of the TCP receiver. -/
theorem emits_receiveTcpWith_stream {deliver : Option (List UInt8 → Callback)}
    (hd : ∀ f, deliver = some f → ∀ data u, P ⟨.callback (f data), u⟩) (success : Nat → Int) :
    Emits P (receiveTcpWith fd deliver success) := by
  unfold receiveTcpWith
  refine (emits_syscall fun r ↦ hP.recvWord r).bind fun size ↦ ?_
  cases size with
  | error e => exact emits_pure _
  | ok size =>
    refine .ite (emits_pure _) (.ite (emits_pure _) (Emits.bind ?_ fun ok ↦ ?_))
    · exact emits_growBuffer hP.newBuffer hP.freeBuffer _
    refine .ite ?_ (emits_pure _)
    unfold receivePayload
    refine (emits_recvBuffer hP _ _).bind fun k ↦ .ite (emits_pure _) (.ite (emits_pure _) ?_)
    refine (emits_reassemble hP _ _ _).bind fun r ↦ ?_
    cases r with
    | some r => exact emits_pure _
    | none =>
      cases deliver with
      | none => exact emits_pure _
      | some f =>
        exact emits_self.bind fun b ↦ (emits_issue fun u ↦ hd f rfl _ u).bind fun _ ↦ emits_pure _

end

/-- The same, for a property of the calls of both receivers. -/
theorem emits_receiveTcpWith (hP : ReceiverCalls P fd) {deliver : Option (List UInt8 → Callback)}
    (hd : ∀ f, deliver = some f → ∀ data u, P ⟨.callback (f data), u⟩) (success : Nat → Int) :
    Emits P (receiveTcpWith fd deliver success) :=
  emits_receiveTcpWith_stream hP.toStreamCalls hd success

end

end Udtcp
