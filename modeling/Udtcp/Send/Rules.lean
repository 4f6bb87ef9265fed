import Udtcp.Send.Structure

/-!
# Rules for messages

A message in any environment, from what its calls do: it takes the lock of its send structure or
gives up, and with the lock it allocates, copies and hands over, and then gives the lock back.
-/

namespace Udtcp

open Interaction Routine

variable {τ K : Type} {ker : Kernel posix K} {I J : Thread τ → K → Prop} {infos : UdtcpInfos}

/-- The system calls of a message through a record. -/
def SysCall.sends (infos : UdtcpInfos) : SysCall → Bool
  | .newBuffer _ => true
  | .send fd _ => fd = infos.tcpSocket
  | .sendto fd _ _ => fd = infos.udpServerSocket
  | _ => false

/-- The calls that concern send structures and their buffers. -/
def Call.copies : Call → Bool
  | .freeBuffer _ => true
  | .loadSend _ => true
  | .storeSend _ _ => true
  | _ => false

/-- What a message through a record keeps: `I` without the lock, `J` with it. -/
structure MessageRules (ker : Kernel posix K) (I J : Thread τ → K → Prop) (infos : UdtcpInfos) :
    Prop where
  lock : ∀ t k ok k', I t k → ker k (.mutexLock infos.send) ok k' → if ok then J t k' else I t k'
  unlock : ∀ t k u k', J t k → ker k (.mutexUnlock infos.send) u k' → I t k'
  sys : ∀ c : SysCall, c.sends infos = true → ∀ t k r k', J t k → ker k (.sys c) r k' →
    J (t.note r) k'
  call : ∀ c : Call, c.copies = true → ∀ t k r k', J t k → ker k c r k' → J t k'

namespace MessageRules

private theorem growSend (h : MessageRules ker I J infos) (addr : UInt64) (size : Nat) :
    Maintains ker J (growSend addr size) := by
  unfold Udtcp.growSend
  refine (maintains_perform (h.call _ rfl)).bind fun s ↦ .ite ?_ (maintains_pure _)
  refine (maintains_syscall (h.sys _ rfl)).bind fun r ↦ ?_
  cases r with
  | error e => exact maintains_pure _
  | ok block =>
    have hstore (v : UdtcpSend) : Maintains ker J (do
        issue (.storeSend addr v)
        return true : Proc τ Bool) :=
      (maintains_issue (h.call _ rfl)).bind fun _ ↦ maintains_pure _
    cases s.buffer with
    | none => exact hstore _
    | some old => exact (maintains_issue (h.call _ rfl)).bind fun _ ↦ hstore _

private theorem bufferCopy (h : MessageRules ker I J infos) (addr : UInt64) (data : Payload) :
    Maintains ker J (bufferCopy addr data) := by
  unfold Udtcp.bufferCopy
  refine (h.growSend _ _).bind fun ok ↦ .ite ?_ (maintains_pure _)
  refine (maintains_perform (h.call _ rfl)).bind fun s ↦ ?_
  split
  · exact (maintains_issue (h.call _ rfl)).bind fun _ ↦ maintains_pure _
  · exact maintains_crash

private theorem sendWith (h : MessageRules ker I J infos) (data : Payload)
    {emit : List UInt8 → Proc τ Int} (hemit : ∀ bytes, Maintains ker J (emit bytes)) :
    Maintains ker I (sendWith infos.send data emit) := by
  have hunlock (n : Int) {t : Thread τ} {k : K} (hJ : J t k) : Must ker (do
      issue (.mutexUnlock infos.send)
      return n) t k fun _ t' k' ↦ I t' k' :=
    must_issue_bind fun u k' hk ↦ must_pure (h.unlock _ _ _ _ hJ hk)
  intro t k hI
  unfold Udtcp.sendWith
  refine must_request_bind fun ok k₁ hk ↦ must_ite (fun hok ↦ ?_) fun hno ↦ must_pure ?_
  · have hJ : J t k₁ := by simpa [hok] using h.lock t k ok k₁ hI hk
    refine must_bind ((h.bufferCopy _ _ t k₁ hJ).mono fun n t₂ k₂ hJ₂ ↦ ?_)
    refine must_ite (fun _ ↦ hunlock 0 hJ₂) fun _ ↦ must_request_bind fun s k₃ hk₃ ↦ ?_
    have hJ₃ : J t₂ k₃ := h.call _ rfl _ _ _ _ hJ₂ hk₃
    exact must_bind ((hemit _ t₂ k₃ hJ₃).mono fun ret _ _ hJ₄ ↦ hunlock ret hJ₄)
  · simpa [hno] using h.lock t k ok k₁ hI hk

/-- **Rule for messages.** -/
theorem maintains_run {q : Request} (h : MessageRules ker I J q.infos) : Maintains ker I q.run := by
  unfold Request.run
  refine .ite (h.sendWith _ fun bytes ↦ ?_) (h.sendWith _ fun bytes ↦ ?_)
  · refine (maintains_syscall (h.sys _ (by simp [SysCall.sends]))).bind fun r ↦ ?_
    cases r <;> exact maintains_pure _
  · refine (maintains_syscall (h.sys _ (by simp [SysCall.sends]))).bind fun r ↦ ?_
    cases r <;> exact maintains_pure _

end MessageRules

end Udtcp
