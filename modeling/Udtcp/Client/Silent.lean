import Udtcp.Client.Create
import Udtcp.Posix.Observe
import Udtcp.Send.Send

/-!
# Calls the user does not hear

The parts of creation and deletion, of clients and of servers, that call nobody back. A client that
is created calls nobody back, and neither does a send; one that is deleted reports the end of its
connection if it thinks it has one.
-/

namespace Udtcp

open Interaction Routine

/-- Nothing the user hears. -/
def Silent (e : Event posix) : Prop := callbackOf e.call = none

section

variable {τ : Type}

/-- A call that is no callback is silent. -/
theorem emits_requestSilent {c : Call} (h : callbackOf c = none) :
    Emits Silent (request c : Proc τ c.Reply) := emits_perform fun _ ↦ h

/-- Closing a socket is silent. -/
theorem emits_closeIfOpen (fd : Fd) : Emits Silent (closeIfOpen fd : Proc τ Unit) :=
  .ite ((emits_syscall fun _ ↦ rfl).bind fun _ ↦ emits_pure _) (emits_pure _)

/-- Shutting a socket down is silent. -/
theorem emits_shutdownIfOpen (fd : Fd) : Emits Silent (shutdownIfOpen fd : Proc τ Unit) :=
  .ite ((emits_syscall fun _ ↦ rfl).bind fun _ ↦ emits_pure _) (emits_pure _)

/-- Freeing a block is silent. -/
theorem emits_freeBlock (b : Option Block) : Emits Silent (freeBlock b : Proc τ Unit) := by
  cases b with
  | none => exact emits_pure _
  | some b => exact emits_issue fun _ ↦ rfl

/-- Binding a socket is silent. -/
theorem emits_bindSocket (fd : Fd) (addr : SockaddrIn) :
    Emits Silent (bindSocket fd addr : Proc τ (Option SockaddrIn)) := by
  refine (emits_syscall fun _ ↦ rfl).bind fun r ↦ ?_
  cases r with
  | error e => exact emits_pure _
  | ok u =>
    refine (emits_syscall fun _ ↦ rfl).bind fun r ↦ ?_
    cases r with
    | error e => exact emits_pure _
    | ok name => exact emits_pure _

private theorem emits_setOptions (option : SocketOption) (fds : List Fd) :
    Emits Silent (setOptions option fds : Proc τ Bool) := by
  induction fds with
  | nil => exact emits_pure _
  | cons fd fds ih =>
    refine (emits_syscall fun _ ↦ rfl).bind fun r ↦ ?_
    cases r with
    | error e => exact emits_pure _
    | ok u => exact ih

/-- Adding an option is silent. -/
theorem emits_addOption (fd : Fd) (option : Nat) :
    Emits Silent (udtcpSocketAddOption fd option : Proc τ Int) :=
  emits_udtcpSocketAddOption (fun _ ↦ rfl) fun _ _ ↦ rfl

/-- Copying a text is silent. -/
theorem emits_copyTextSilent (offset : Nat) (text : List UInt8) :
    Emits Silent (copyText offset text) :=
  .ite (emits_update _) fun _ _ _ _ h ↦ (exec_crash h).elim

/-- A socket can be closed. -/
theorem may_closeIfOpen (u : Thread τ) (fd : Fd) :
    May (closeIfOpen fd) u fun _ _ u' ↦ u' = u := by
  by_cases hfd : fd ≠ -1
  · exact may_if_pos hfd (may_syscall_bind (.ok ()) (may_pure rfl))
  · exact may_if_neg hfd (may_pure rfl)

/-- A socket can be shut down. -/
theorem may_shutdownIfOpen (u : Thread τ) (fd : Fd) :
    May (shutdownIfOpen fd) u fun _ _ u' ↦ u' = u := by
  by_cases hfd : fd ≠ -1
  · exact may_if_pos hfd (may_syscall_bind (.ok ()) (may_pure rfl))
  · exact may_if_neg hfd (may_pure rfl)

end

/-! ### Clients -/

namespace Client

/-- The end of a deletion: what the client owns besides its descriptors. -/
theorem emits_freeParts {P : Event posix → Prop}
    (hP : ∀ c r, c.isSys = false → callbackOf c = none → P ⟨c, r⟩) (c : UdtcpClient) : Emits P (do
      if 0 < c.buffer.bufferSize then
        freeBlock c.buffer.bufferData
      else
        pure ()
      let send ← request (.loadSend c.sendAddr)
      if 0 < send.bufferSize then
        freeBlock send.buffer
      else
        pure ()
      issue (.mutexDestroy c.sendAddr)
      issue .freeClient : ClientProc Unit) := by
  have hfree (b : Option Block) : Emits P (freeBlock b : ClientProc Unit) := by
    cases b with
    | none => exact emits_pure _
    | some b => exact emits_issue fun r ↦ hP _ r rfl rfl
  have hlast : Emits P (do
      issue (.mutexDestroy c.sendAddr)
      issue .freeClient : ClientProc Unit) :=
    (emits_issue fun r ↦ hP _ r rfl rfl).bind fun _ ↦ emits_issue fun r ↦ hP _ r rfl rfl
  have hend : Emits P (do
      let send ← request (.loadSend c.sendAddr)
      if 0 < send.bufferSize then
        freeBlock send.buffer
      else
        pure ()
      issue (.mutexDestroy c.sendAddr)
      issue .freeClient : ClientProc Unit) :=
    (emits_perform fun r ↦ hP _ r rfl rfl).bind fun send ↦
      .ite ((hfree _).bind fun _ ↦ hlast) hlast
  exact .ite ((hfree _).bind fun _ ↦ hend) hend

/-- A failed creation does not return zero. -/
theorem exec_abandon {t t' : Thread UdtcpClient} {tr : Trace posix} {n : Int}
    (h : Exec abandon t tr n t') : n = -1 := by
  obtain ⟨_, _, _, _, -, -, hret⟩ := exec_bind.mp h
  exact (exec_pure.mp hret).2.1

/-- The failure exit of a creation returns `-1`. -/
theorem exec_releaseClient {opened : List Fd} {t t' : Thread UdtcpClient} {tr : Trace posix}
    {n : Int} (h : Exec (releaseClient opened) t tr n t') : n = -1 := by
  unfold releaseClient at h
  rw [exec_self_bind] at h
  obtain ⟨_, _, _, _, -, -, hclose⟩ := exec_bind.mp h
  obtain ⟨_, _, _, _, -, -, hfree⟩ := exec_bind.mp hclose
  obtain ⟨_, _, -, hret⟩ := exec_issue_bind.mp hfree
  exact (exec_pure.mp hret).2.1

private theorem emitsFor_abandon : EmitsFor Silent (· = 0) abandon :=
  emitsFor_of_not fun _ _ _ _ h hzero ↦ by cases (exec_abandon h).symm.trans hzero

private theorem emitsFor_releaseClient (opened : List Fd) :
    EmitsFor Silent (· = 0) (releaseClient opened) :=
  emitsFor_of_not fun _ _ _ _ h hzero ↦ by cases (exec_releaseClient h).symm.trans hzero

private theorem emits_finishClient (host : Hostent) : Emits Silent (finishClient host) := by
  refine (emits_update _).bind fun _ ↦ (emits_update _).bind fun _ ↦ .bind ?_ fun _ ↦ ?_
  · unfold onPart
    exact ((emits_copyTextSilent _ _).bind fun _ ↦ emits_self.bind fun _ ↦
      emits_copyTextSilent _ _).zoom
  · exact (emits_update _).bind fun _ ↦ emits_self.bind fun _ ↦
      (emits_syscall fun _ ↦ rfl).bind fun _ ↦ emits_pure _

private theorem emitsFor_unblockSockets (host : Hostent) :
    EmitsFor Silent (· = 0) (unblockSockets host) := by
  refine .bind (emits_update _) fun _ ↦ ?_
  refine .bind emits_self fun _ ↦ .bind (emits_addOption _ _) fun _ ↦ .ite emitsFor_abandon ?_
  refine .bind emits_self fun _ ↦ .bind (emits_addOption _ _) fun _ ↦ .ite emitsFor_abandon ?_
  exact (emits_finishClient host).emitsFor

private theorem emitsFor_bindSockets (host : Hostent) (p q r : UInt16) :
    EmitsFor Silent (· = 0) (bindSockets host p q r) := by
  refine .bind (emits_update _) fun _ ↦ .bind emits_self fun _ ↦ .bind emits_self fun _ ↦
    .bindOption (emits_bindSocket _ _) emitsFor_abandon fun _ ↦ ?_
  refine .bind (emits_update _) fun _ ↦ .bind emits_self fun _ ↦ .bind emits_self fun _ ↦
    .bindOption (emits_bindSocket _ _) emitsFor_abandon fun _ ↦ ?_
  refine .bind (emits_update _) fun _ ↦ .bind emits_self fun _ ↦ .bind emits_self fun _ ↦
    .bindOption (emits_bindSocket _ _) emitsFor_abandon fun _ ↦ ?_
  exact .bind (emits_update _) fun _ ↦ emitsFor_unblockSockets host

private theorem emitsFor_openSockets (host : Hostent) (p q r : UInt16) :
    EmitsFor Silent (· = 0) (openSockets host p q r) := by
  refine .bind (emits_syscall fun _ ↦ rfl) fun tcp ↦ ?_
  cases tcp with
  | error e => exact emitsFor_releaseClient _
  | ok tcp =>
    refine .bind (emits_update _) fun _ ↦ .bind (emits_syscall fun _ ↦ rfl) fun udp ↦ ?_
    cases udp with
    | error e => exact emitsFor_releaseClient _
    | ok udp =>
      refine .bind (emits_update _) fun _ ↦ .bind (emits_syscall fun _ ↦ rfl) fun other ↦ ?_
      cases other with
      | error e => exact emitsFor_releaseClient _
      | ok other =>
        refine .bind (emits_update _) fun _ ↦ .bind emits_self fun c ↦ ?_
        refine .bind (emits_setOptions _ _) fun ok ↦ .ite ?_ emitsFor_abandon
        exact .bind (emits_setOptions _ _) fun ok ↦
          .ite (emitsFor_bindSockets _ _ _ _) emitsFor_abandon

end Client

section

variable {t t' : Thread UdtcpClient} {tr : Trace posix}

/-- **Creation** that succeeds calls nobody back. -/
theorem callbacksOf_udtcpCreateClient {hostname : List UInt8} {p q r : UInt16}
    (h : Exec (udtcpCreateClient hostname p q r) t tr 0 t') : callbacksOf tr = [] := by
  have hsilent : EmitsFor Silent (· = 0) (udtcpCreateClient hostname p q r) := by
    refine .bind (emits_requestSilent rfl) fun host ↦ ?_
    cases host with
    | none => exact .bind (emits_setErrno _) fun _ ↦ emitsFor_pure _
    | some host =>
      refine .bind (emits_syscall fun _ ↦ rfl) fun addr ↦ ?_
      cases addr with
      | error e => exact emitsFor_pure _
      | ok addr =>
        refine .bind (emits_update _) fun _ ↦ .bind emits_self fun c ↦
          .bind (emits_issue fun _ ↦ rfl) fun _ ↦ .bind (emits_requestSilent rfl) fun ok ↦ ?_
        refine .ite (Client.emitsFor_openSockets _ _ _ _) ?_
        exact .bind (emits_issue fun _ ↦ rfl) fun _ ↦ emitsFor_pure _
  exact callbacksOf_eq_nil (hsilent _ _ _ _ h rfl)

/-- **Deletion** reports the end of a connection if `tcp_socket` is not `-1`. -/
theorem callbacksOf_udtcpDeleteClient {u : Unit} (hcb : t.self.disconnectCallback = true)
    (h : Exec udtcpDeleteClient t tr u t') :
    callbacksOf tr = if t.self.clientInfos.tcpSocket = -1 then [] else
      [.disconnect 1 t.self.serverInfos] := by
  have hfree (c : Call) (r : c.Reply) (_ : c.isSys = false) (hc : callbackOf c = none) :
      Silent ⟨c, r⟩ := hc
  unfold udtcpDeleteClient at h
  rw [exec_self_bind] at h
  obtain ⟨tr₁, _, t₁, _, rfl, h₁, h⟩ := exec_bind.mp h
  obtain ⟨tr₂, _, t₂, _, rfl, h₂, h⟩ := exec_bind.mp h
  obtain ⟨tr₃, _, t₃, _, rfl, h₃, h⟩ := exec_bind.mp h
  obtain ⟨tr₄, _, t₄, rest, rfl, h₄, h⟩ := exec_bind.mp h
  rw [callbacksOf_append, callbacksOf_append, callbacksOf_append, callbacksOf_append,
    callbacksOf_eq_nil (emits_shutdownIfOpen _ _ _ _ _ h₁),
    callbacksOf_eq_nil (emits_closeIfOpen _ _ _ _ _ h₂),
    callbacksOf_eq_nil (emits_closeIfOpen _ _ _ _ _ h₃),
    callbacksOf_eq_nil (emits_closeIfOpen _ _ _ _ _ h₄)]
  simp only [List.nil_append]
  rw [exec_ite] at h
  split at h
  · next hopen =>
    obtain ⟨x, rest, rfl, hrest⟩ := exec_issue_bind.mp h
    rw [if_neg hopen.1]
    exact congrArg (_ :: ·) (callbacksOf_eq_nil (Client.emits_freeParts hfree _ _ _ _ _ hrest))
  · next hclosed =>
    have hfd : t.self.clientInfos.tcpSocket = -1 := by
      by_contra hfd
      exact hclosed ⟨hfd, hcb⟩
    rw [if_pos hfd]
    exact callbacksOf_eq_nil (Client.emits_freeParts hfree _ _ _ _ _ h)

/-- A deletion can happen. -/
theorem may_udtcpDeleteClient (t : Thread UdtcpClient) :
    May udtcpDeleteClient t fun _ _ _ ↦ True := by
  have hfree (c : UdtcpClient) (u : Thread UdtcpClient) : May (do
      if 0 < c.buffer.bufferSize then
        freeBlock c.buffer.bufferData
      else
        pure ()
      let send ← request (.loadSend c.sendAddr)
      if 0 < send.bufferSize then
        freeBlock send.buffer
      else
        pure ()
      issue (.mutexDestroy c.sendAddr)
      issue .freeClient) u fun _ _ _ ↦ True := by
    have hend : May (do
        let send ← request (.loadSend c.sendAddr)
        if 0 < send.bufferSize then
          freeBlock send.buffer
        else
          pure ()
        issue (.mutexDestroy c.sendAddr)
        issue .freeClient) u fun _ _ _ ↦ True :=
      may_request_bind .zero (may_if_neg (by decide) (may_issue_bind () (may_issue () trivial)))
    by_cases hsize : 0 < c.buffer.bufferSize
    · refine may_if_pos hsize ?_
      cases c.buffer.bufferData with
      | none => exact hend
      | some b => exact may_issue_bind () (hend.mono fun _ _ _ h ↦ h)
    · exact may_if_neg hsize hend
  unfold udtcpDeleteClient
  refine may_self_bind (may_bind ((may_shutdownIfOpen t _).mono fun _ _ t₁ _ ↦ ?_))
  refine may_bind ((may_closeIfOpen t₁ _).mono fun _ _ t₂ _ ↦ ?_)
  refine may_bind ((may_closeIfOpen t₂ _).mono fun _ _ t₃ _ ↦ ?_)
  refine may_bind ((may_closeIfOpen t₃ _).mono fun _ _ t₄ _ ↦ ?_)
  by_cases hcb : t.self.clientInfos.tcpSocket ≠ -1 ∧ t.self.disconnectCallback
  · exact may_if_pos hcb (may_issue_bind () ((hfree _ _).mono fun _ _ _ _ ↦ trivial))
  · exact may_if_neg hcb ((hfree _ _).mono fun _ _ _ _ ↦ trivial)

end

/-! ### Sends -/

/-- What a property must hold of to hold of every call of a send on socket `fd`. -/
structure SendCalls (P : Event posix → Prop) (fd : Fd) : Prop where
  call : ∀ c r, c.isSys = false → callbackOf c = none → P ⟨c, r⟩
  newBuffer : ∀ size r, P ⟨.sys (.newBuffer size), r⟩
  send : ∀ bytes r, P ⟨.sys (.send fd bytes), r⟩

section

variable {τ : Type} {P : Event posix → Prop} {fd : Fd} (hP : SendCalls P fd)

include hP

private theorem emits_growSend (addr : UInt64) (size : Nat) :
    Emits P (growSend addr size : Proc τ Bool) := by
  refine (emits_perform fun r ↦ hP.call _ r rfl rfl).bind fun s ↦ .ite ?_ (emits_pure _)
  refine (emits_syscall (hP.newBuffer _)).bind fun r ↦ ?_
  cases r with
  | error e => exact emits_pure _
  | ok block =>
    have hstore (value : UdtcpSend) : Emits P (do
        issue (.storeSend addr value)
        return true : Proc τ Bool) :=
      (emits_issue fun r ↦ hP.call _ r rfl rfl).bind fun _ ↦ emits_pure _
    cases s.buffer with
    | none => exact hstore _
    | some old => exact (emits_issue fun r ↦ hP.call _ r rfl rfl).bind fun _ ↦ hstore _

private theorem emits_bufferCopy (addr : UInt64) (data : Payload) :
    Emits P (bufferCopy addr data : Proc τ Int) := by
  refine (emits_growSend hP _ _).bind fun ok ↦ .ite ?_ (emits_pure _)
  refine (emits_perform fun r ↦ hP.call _ r rfl rfl).bind fun s ↦ ?_
  split
  · exact (emits_issue fun r ↦ hP.call _ r rfl rfl).bind fun _ ↦ emits_pure _
  · exact fun _ _ _ _ h ↦ (exec_crash h).elim

/-- The calls of a send by TCP. -/
theorem emits_udtcpSendTcp {infos : UdtcpInfos} (hfd : infos.tcpSocket = fd) (data : Payload) :
    Emits P (udtcpSendTcp infos data : Proc τ Int) := by
  have hunlock (n : Int) : Emits P (do
      issue (.mutexUnlock infos.send)
      return n : Proc τ Int) := (emits_issue fun r ↦ hP.call _ r rfl rfl).bind fun _ ↦ emits_pure _
  refine (emits_perform fun r ↦ hP.call _ r rfl rfl).bind fun locked ↦ .ite ?_ (emits_pure _)
  refine (emits_bufferCopy hP _ _).bind fun k ↦ .ite (hunlock _) ?_
  refine (emits_perform fun r ↦ hP.call _ r rfl rfl).bind fun s ↦ .bind ?_ fun ret ↦ hunlock _
  subst hfd
  refine (emits_syscall (hP.send _)).bind fun r ↦ ?_
  cases r <;> exact emits_pure _

end

/-- A send calls nobody back. -/
theorem callbacksOf_udtcpSendTcp {τ : Type} {infos : UdtcpInfos} {data : Payload} {n : Int}
    {t t' : Thread τ} {tr : Trace posix} (h : Exec (udtcpSendTcp infos data) t tr n t') :
    callbacksOf tr = [] :=
  callbacksOf_eq_nil (emits_udtcpSendTcp (P := Silent) ⟨fun _ _ _ hc ↦ hc, fun _ _ ↦ rfl,
    fun _ _ ↦ rfl⟩ rfl data _ _ _ _ h)

end Udtcp
