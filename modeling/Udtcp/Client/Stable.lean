import Udtcp.Client.Rules
import Udtcp.Send.Send

/-!
# What the calls on a client leave alone

Connection attempts and passes change `client_infos->tcp_socket`, the record of the server, the
receive buffer and the `revents`, and nothing else of a client.
-/

namespace Udtcp

open Interaction Routine

/-- A property of clients that does not depend on what connection attempts and passes change. -/
structure UdtcpClient.Stable (L : UdtcpClient → Prop) : Prop where
  tcpSocket : ∀ c fd, L c → L (c.setTcpSocket fd)
  serverInfos : ∀ c r, L c → L { c with serverInfos := r }
  buffer : ∀ c b, L c → L { c with buffer := b }
  revents : ∀ c revents, L c → L (c.setRevents revents)

section

variable {K : Type} {ker : Kernel posix K}

variable {L : UdtcpClient → Prop}

private theorem keeping_closeTcpSocket (t : Thread UdtcpClient) (k : K) (hL : L t.self) :
    Must ker Client.closeTcpSocket t k fun _ t' _ ↦ L t'.self := by
  unfold Client.closeTcpSocket
  refine must_self_bind (must_syscall_bind fun r k₁ _ ↦ must_self_bind ?_)
  refine must_syscall_bind fun r' k₂ _ ↦ must_pure ?_
  rw [Thread.note_self, Thread.note_self]
  exact hL

private theorem UdtcpClient.Stable.attemptRules (hL : UdtcpClient.Stable L) (fd : Fd) :
    AttemptRules ker fd fun t _ ↦ L t.self ∧ t.self.clientInfos.tcpSocket = fd where
  tcpSocket _ _ hI := hI.2
  sys _ _ t _ r _ hI _ := (t.note_self r).symm ▸ hI
  call _ _ _ _ _ _ hI _ := hI
  errno _ _ _ hI := hI
  serverInfos _ _ r hI := ⟨hL.serverInfos _ r hI.1, hI.2⟩

/-- **A connection attempt** keeps every stable property. -/
theorem UdtcpClient.Stable.udtcpConnectClient (hL : UdtcpClient.Stable L) (hostname : List UInt8)
    (tcpPort : UInt16) (timeout : Int) :
    Maintains ker (fun t _ ↦ L t.self) (udtcpConnectClient hostname tcpPort timeout) :=
  fun _ _ hI ↦ must_udtcpConnectClient_of hL.attemptRules (fun _ _ _ ↦ ⟨hL.tcpSocket _ _ hI, rfl⟩)
    (fun _ _ _ ↦ keeping_closeTcpSocket _ _ (hL.tcpSocket _ _ hI))
    (fun _ _ _ hI ↦ keeping_closeTcpSocket _ _ hI.1) (fun _ _ _ hI ↦ hI) fun _ _ _ hI ↦ hI.1

private theorem UdtcpClient.Stable.passRules (hL : UdtcpClient.Stable L) :
    PassRules ker fun t _ ↦ L t.self where
  revents _ _ revents hI := hL.revents _ revents hI
  flag _ _ _ _ hI _ := hI
  receiveTcp _ _ hI := must_self_bind (must_onPart fun _ _ _ _ _ _ ↦ hL.buffer _ _ hI)
  receiveUdp _ _ hI := must_self_bind (must_onPart fun _ _ _ _ _ _ ↦ hL.buffer _ _ hI)

private theorem UdtcpClient.Stable.disconnect (hL : UdtcpClient.Stable L) (t : Thread UdtcpClient)
    (k : K) (hI : L t.self) : Must ker Client.disconnect t k fun _ t' _ ↦ L t'.self := by
  unfold Client.disconnect
  refine must_self_bind (must_syscall_bind fun r _ _ ↦ must_self_bind ?_)
  refine must_syscall_bind fun r' _ _ ↦ must_update_bind (must_self_bind ?_)
  have hI' : L (((t.note r).note r').self.setTcpSocket (-1)) := by
    rw [Thread.note_self, Thread.note_self]
    exact hL.tcpSocket _ _ hI
  exact must_ite (fun _ ↦ must_issue fun _ _ _ ↦ hI') fun _ ↦ must_pure hI'

/-- **A pass** keeps every stable property. -/
theorem UdtcpClient.Stable.udtcpClientPoll (hL : UdtcpClient.Stable L) (fuel : Nat)
    (timeout : Int) :
    Maintains ker (fun t _ ↦ L t.self) (udtcpClientPoll fuel timeout) :=
  fun t _ hI ↦ must_udtcpClientPoll_of hL.passRules (fun r _ _ ↦ (t.note_self r).symm ▸ hI)
    hL.disconnect fun _ _ hI ↦ hI

/-! ### Sends -/

section

variable {τ : Type} {L : τ → Prop}

-- The object has the property still.
private def Keeping (L : τ → Prop) (t : Thread τ) (_ : K) : Prop := L t.self

private theorem keeping_syscall (c : SysCall) : Maintains ker (Keeping L) (syscall c) :=
  maintains_syscall fun t _ r _ hI _ ↦ by
    rw [Keeping, Thread.note_self]
    exact hI

private theorem keeping_request (c : Call) : Maintains ker (Keeping L) (request c) :=
  maintains_perform fun _ _ _ _ hI _ ↦ hI

private theorem keeping_issue (c : Call) : Maintains ker (Keeping L) (issue c) :=
  maintains_issue fun _ _ _ _ hI _ ↦ hI

private theorem keeping_growSend (addr : UInt64) (dataSize : Nat) :
    Maintains ker (Keeping L) (growSend addr dataSize) := by
  refine (keeping_request _).bind fun s ↦ .ite ((keeping_syscall _).bind fun r ↦ ?_)
    (maintains_pure _)
  cases r with
  | error e => exact maintains_pure _
  | ok block =>
    have hstore (value : UdtcpSend) : Maintains ker (Keeping L) (do
        issue (.storeSend addr value)
        return true) := (keeping_issue _).bind fun _ ↦ maintains_pure _
    cases s.buffer with
    | none => exact hstore _
    | some old => exact (keeping_issue _).bind fun _ ↦ hstore _

private theorem keeping_bufferCopy (addr : UInt64) (data : Payload) :
    Maintains ker (Keeping L) (bufferCopy addr data) := by
  refine (keeping_growSend _ _).bind fun ok ↦ .ite ((keeping_request _).bind fun s ↦ ?_)
    (maintains_pure _)
  split
  · exact (keeping_issue _).bind fun _ ↦ maintains_pure _
  · exact fun _ _ _ ↦ must_crash

/-- A send keeps every property of the object. -/
theorem maintains_udtcpSendTcp (infos : UdtcpInfos) (data : Payload) :
    Maintains ker (fun t _ ↦ L t.self) (udtcpSendTcp infos data) := by
  have hunlock (n : Int) : Maintains ker (Keeping L) (do
      issue (.mutexUnlock infos.send)
      return n) := (keeping_issue _).bind fun _ ↦ maintains_pure _
  refine (keeping_request _).bind fun locked ↦ .ite ?_ (maintains_pure _)
  refine (keeping_bufferCopy _ _).bind fun k ↦ .ite (hunlock _)
    ((keeping_request _).bind fun s ↦ ?_)
  refine Maintains.bind ?_ fun ret ↦ hunlock _
  refine (keeping_syscall _).bind fun r ↦ ?_
  cases r <;> exact maintains_pure _

end

end

end Udtcp
