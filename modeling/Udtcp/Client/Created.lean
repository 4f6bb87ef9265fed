import Udtcp.Client.Dial

/-!
# What a created client is like

The state in which `udtcp_create_client` of `create_client.c:38–266` returns zero: its first poll
entry holds the number of the stream socket that was opened, and that socket is closed again.
-/

namespace Udtcp

open Interaction Routine

section

variable {τ : Type} {L : τ → Prop} {ds : List Dial}

private theorem unseen_bindSocket (fd : Fd) (addr : SockaddrIn) :
    Maintains dialRecorder (Unseen L ds) (bindSocket fd addr) := by
  unfold bindSocket
  refine (unseen_syscall fun _ ↦ rfl).bind fun r ↦ ?_
  cases r with
  | error e => exact maintains_pure _
  | ok u =>
    refine (unseen_syscall fun _ ↦ rfl).bind fun r ↦ ?_
    cases r <;> exact maintains_pure _

private theorem unseen_setOptions (option : SocketOption) (fds : List Fd) :
    Maintains dialRecorder (Unseen L ds) (setOptions option fds) := by
  induction fds with
  | nil => exact maintains_pure _
  | cons fd fds ih =>
    unfold setOptions
    refine (unseen_syscall fun _ ↦ rfl).bind fun r ↦ ?_
    cases r with
    | error e => exact maintains_pure _
    | ok u => exact ih

private theorem unseen_copyText {L : UdtcpInfos → Prop} (hL : ∀ r, L r) (offset : Nat)
    (text : List UInt8) : Maintains dialRecorder (Unseen L ds) (copyText offset text) := by
  unfold copyText
  exact .ite (unseen_update fun _ _ ↦ hL _) maintains_crash

end

namespace Client

variable {t : Thread UdtcpClient} {ds : List Dial} {fd : Fd}

/-- What the routines after the opening of the sockets come to: on success the client watches `fd`,
and nothing more was seen. -/
def Finishes (fd : Fd) (ds : List Dial) (n : Int) (t : Thread UdtcpClient) (ds' : List Dial) :
    Prop := n = 0 → t.self.Watches fd ∧ ds' = ds

private theorem must_abandon : Must dialRecorder abandon t ds (Finishes fd ds) :=
  must_bind fun _ _ _ _ _ _ ↦ must_pure fun h ↦ by cases h

private theorem must_finishClient_created {host : Hostent} (h : t.self.clientInfos.tcpSocket = fd) :
    Must dialRecorder (finishClient host) t ds (Finishes fd ds) := by
  unfold finishClient
  refine must_update_bind (must_update_bind (must_bind (must_onPart ?_)))
  have htext : Maintains dialRecorder (Unseen (fun _ : UdtcpInfos ↦ True) ds) (do
      copyText UdtcpInfos.hostnameOffset host.name
      copyText UdtcpInfos.ipOffset (inetNtoa (← self).tcpAddr.sAddr)) :=
    (unseen_copyText (fun _ ↦ trivial) _ _).bind fun _ ↦
      maintains_self.bind fun _ ↦ unseen_copyText (fun _ ↦ trivial) _ _
  refine (htext _ _ ⟨trivial, rfl⟩).mono fun _ u ds₁ hI ↦ ?_
  obtain rfl := hI.2
  refine must_update_bind (must_self_bind (must_syscall_bind fun r ds₂ hseen ↦
    must_pure fun _ ↦ ?_))
  rw [Thread.note_self]
  exact ⟨⟨h, rfl, rfl⟩, hseen.trans (List.append_nil _)⟩

private theorem must_unblockSockets_created {host : Hostent}
    (h : t.self.clientInfos.tcpSocket = fd) :
    Must dialRecorder (unblockSockets host) t ds (Finishes fd ds) := by
  unfold unblockSockets
  refine must_update_bind (must_self_bind (must_bind ?_))
  have hquiet (sock : Fd) : Maintains dialRecorder
      (Unseen (fun c : UdtcpClient ↦ c.clientInfos.tcpSocket = fd) ds)
      (udtcpSocketAddOption sock O_NONBLOCK) := unseen_udtcpSocketAddOption sock O_NONBLOCK
  refine Must.mono (hquiet _ _ _ ?_) ?_
  · exact ⟨h, rfl⟩
  rintro n₁ t₁ ds₁ hI
  refine must_ite (fun _ ↦ hI.2 ▸ must_abandon) fun _ ↦ must_self_bind (must_bind ?_)
  refine (hquiet _ _ _ hI).mono ?_
  rintro n₂ t₂ ds₂ ⟨h₂, rfl⟩
  exact must_ite (fun _ ↦ must_abandon) fun _ ↦ must_finishClient_created h₂

private theorem must_bindOrAbandon {sock : Fd} {addr : SockaddrIn} {k : SockaddrIn → ClientProc Int}
    (h : t.self.clientInfos.tcpSocket = fd)
    (hk : ∀ name t', t'.self.clientInfos.tcpSocket = fd →
      Must dialRecorder (k name) t' ds (Finishes fd ds)) :
    Must dialRecorder (bindSocket sock addr >>= fun o ↦ match o with
      | none => abandon
      | some name => k name) t ds (Finishes fd ds) := by
  refine must_bind ((unseen_bindSocket sock addr
    (L := fun c : UdtcpClient ↦ c.clientInfos.tcpSocket = fd) _ _ ⟨h, rfl⟩).mono ?_)
  rintro o t₁ ds₁ ⟨h₁, rfl⟩
  cases o with
  | none => exact must_abandon
  | some name => exact hk name t₁ h₁

private theorem must_bindSockets_created {host : Hostent}
    {tcpPort udpServerPort udpClientPort : UInt16}
    (h : t.self.clientInfos.tcpSocket = fd) :
    Must dialRecorder (bindSockets host tcpPort udpServerPort udpClientPort) t ds
      (Finishes fd ds) := by
  unfold bindSockets
  refine must_update_bind (must_self_bind (must_self_bind (must_bindOrAbandon h fun _ t₁ h₁ ↦ ?_)))
  refine must_update_bind (must_self_bind (must_self_bind (must_bindOrAbandon h₁ fun _ t₂ h₂ ↦ ?_)))
  refine must_update_bind (must_self_bind (must_self_bind (must_bindOrAbandon h₂ fun _ t₃ h₃ ↦ ?_)))
  exact must_update_bind (must_unblockSockets_created h₃)

private theorem must_setReuse_created {host : Hostent}
    {tcpPort udpServerPort udpClientPort : UInt16}
    (h : t.self.clientInfos.tcpSocket = fd) :
    Must dialRecorder (setReuse host tcpPort udpServerPort udpClientPort) t ds
      (Finishes fd ds) := by
  unfold setReuse
  have hquiet (option : SocketOption) (fds : List Fd) : Maintains dialRecorder
      (Unseen (fun c : UdtcpClient ↦ c.clientInfos.tcpSocket = fd) ds)
      (setOptions option fds) := unseen_setOptions option fds
  refine must_self_bind (must_bind ((hquiet _ _ _ _ ⟨h, rfl⟩).mono ?_))
  rintro ok₁ t₁ ds₁ hI
  refine must_ite (fun _ ↦ must_bind ((hquiet _ _ _ _ hI).mono ?_)) fun _ ↦ hI.2 ▸ must_abandon
  rintro ok₂ t₂ ds₂ ⟨h₂, rfl⟩
  exact must_ite (fun _ ↦ must_bindSockets_created h₂) fun _ ↦ must_abandon

private theorem must_releaseClient {opened : List Fd} :
    Must dialRecorder (releaseClient opened) t ds
    fun n _ _ ↦ n = -1 :=
  must_self_bind (must_request_bind fun _ _ _ ↦ must_bind fun _ _ _ _ _ _ ↦
    must_issue_bind fun _ _ _ ↦ must_pure rfl)

end Client

/-- **Creation.** A client whose creation succeeded has opened one stream socket and watches its
number. -/
theorem must_udtcpCreateClient {hostname : List UInt8}
    {tcpPort udpServerPort udpClientPort : UInt16} {t : Thread UdtcpClient} {ds : List Dial} :
    Must dialRecorder (udtcpCreateClient hostname tcpPort udpServerPort udpClientPort) t ds
      fun n t' ds' ↦ n = 0 → ∃ fd, ds' = ds ++ [.opened fd] ∧ t'.self.Watches fd := by
  have hrelease (opened : List Fd) (t₁ : Thread UdtcpClient) (ds₁ : List Dial) :
      Must dialRecorder (Client.releaseClient opened) t₁ ds₁ fun n t' ds' ↦ n = 0 →
        ∃ fd, ds' = ds ++ [.opened fd] ∧ t'.self.Watches fd :=
    Client.must_releaseClient.mono fun _ _ _ hn h ↦ by cases hn.symm.trans h
  unfold udtcpCreateClient
  refine must_request_bind fun host ds₁ hseen ↦ ?_
  obtain rfl : ds₁ = ds := hseen.trans (List.append_nil ds)
  cases host with
  | none => exact must_setErrno_bind (must_pure fun h ↦ by cases h)
  | some host =>
    refine must_syscall_bind fun r ds₂ hseen ↦ ?_
    obtain rfl : ds₂ = ds₁ := hseen.trans (List.append_nil ds₁)
    cases r with
    | error e => exact must_pure fun h ↦ by cases h
    | ok addr =>
      refine must_update_bind (must_self_bind (must_issue_bind fun _ ds₁ hseen ↦ ?_))
      obtain rfl : ds₁ = ds₂ := hseen.trans (List.append_nil ds₂)
      refine must_request_bind fun ok ds₂ hseen ↦ must_ite (fun _ ↦ ?_) fun _ ↦ ?_
      · obtain rfl : ds₂ = ds₁ := hseen.trans (List.append_nil ds₁)
        unfold Client.openSockets
        refine must_syscall_bind fun r ds₁ hopened ↦ ?_
        cases r with
        | error e => exact hrelease _ _ _
        | ok tcp =>
          have hds : ds₁ = ds₂ ++ [.opened tcp.val] := hopened
          refine must_update_bind (must_syscall_bind fun r ds₃ hseen ↦ ?_)
          obtain rfl : ds₃ = ds₁ := hseen.trans (List.append_nil ds₁)
          cases r with
          | error e => exact hrelease _ _ _
          | ok udpServer =>
            refine must_update_bind (must_syscall_bind fun r ds₄ hseen ↦ ?_)
            obtain rfl : ds₄ = ds₃ := hseen.trans (List.append_nil ds₃)
            cases r with
            | error e => exact hrelease _ _ _
            | ok udpClient =>
              refine must_update_bind (Must.mono (Q := Client.Finishes tcp.val ds₄)
                (Client.must_setReuse_created rfl) ?_)
              exact fun n t' ds' hfin hn ↦ ⟨tcp.val, (hfin hn).2.trans hds, (hfin hn).1⟩
      · exact must_issue_bind fun _ _ _ ↦ must_pure fun h ↦ by cases h

end Udtcp
