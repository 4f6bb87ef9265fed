import Udtcp.Client.Create
import Udtcp.Posix.Observe
import Udtcp.Server.Rounds

/-!
# Rules for the calls on a client

A connection attempt and a pass in any environment, from what their parts keep: an invariant of the
attempt from the socket it opens to the one place that closes it, and an invariant of the pass up to
the disconnection that ends it.
-/

namespace Udtcp

open Interaction Routine

/-- The call works on the descriptor `fd` and on no other, and neither opens nor ends it. -/
def SysCall.worksOn (fd : Fd) : SysCall → Bool
  | .setsockopt f _ => f = fd
  | .bind f _ => f = fd
  | .connect f _ => f = fd
  | .getfl f => f = fd
  | .setfl f _ => f = fd
  | .poll fds _ => fds.all (·.fd = fd)
  | .send f _ => f = fd
  | .recv f _ _ => f = fd
  | _ => false

section

variable {K : Type} {ker : Kernel posix K}

/-- What an attempt must keep while its socket is `fd`. -/
structure AttemptRules (ker : Kernel posix K) (fd : Fd) (I : Thread UdtcpClient → K → Prop) :
    Prop where
  tcpSocket : ∀ t k, I t k → t.self.clientInfos.tcpSocket = fd
  sys : ∀ c : SysCall, c.worksOn fd = true → ∀ t k r k', I t k → ker k (.sys c) r k' →
    I (t.note r) k'
  call : ∀ c : Call, c.isSys = false → ∀ t k r k', I t k → ker k c r k' → I t k'
  errno : ∀ t k e, I t k → I { t with errno := e } k
  serverInfos : ∀ t k r, I t k → I { t with self := { t.self with serverInfos := r } } k

namespace AttemptRules

variable {fd : Fd} {I J : Thread UdtcpClient → K → Prop} {t : Thread UdtcpClient} {k : K}

-- The invariant of an attempt, or what is left of it behind the closing of the socket.
private def Ends (I J : Thread UdtcpClient → K → Prop) (closed : Prop) (t : Thread UdtcpClient)
    (k : K) : Prop := (closed → J t k) ∧ (¬ closed → I t k)

private theorem syscall (h : AttemptRules ker fd I) {c : SysCall} (hc : c.worksOn fd = true) :
    Maintains ker I (Udtcp.syscall c) := maintains_syscall (h.sys c hc)

private theorem request (h : AttemptRules ker fd I) {c : Call} (hc : c.isSys = false) :
    Maintains ker I (Udtcp.request c) := maintains_perform (h.call c hc)

private theorem issue (h : AttemptRules ker fd I) {c : Call} (hc : c.isSys = false) :
    Maintains ker I (Udtcp.issue c) := maintains_issue (h.call c hc)

private theorem setErrno (h : AttemptRules ker fd I) (e : Errno) :
    Maintains ker I (Udtcp.setErrno e) :=
  fun t k hI ↦ must_setErrno_bind (f := pure) (must_pure (h.errno t k e hI))

private theorem updateInfos (h : AttemptRules ker fd I) (f : UdtcpClient → UdtcpInfos) :
    Maintains ker I (update fun c ↦ { c with serverInfos := f c }) :=
  maintains_update fun t k hI ↦ h.serverInfos t k _ hI

private theorem readSocket {α : Type} (h : AttemptRules ker fd I) {f : UdtcpClient → ClientProc α}
    (hf : ∀ c : UdtcpClient, c.clientInfos.tcpSocket = fd → Maintains ker I (f c)) :
    Maintains ker I (self >>= f) :=
  fun t k hI ↦ must_self_bind (hf _ (h.tcpSocket t k hI) t k hI)

private theorem configureTcpSocket (h : AttemptRules ker fd I) :
    Maintains ker I Client.configureTcpSocket := by
  unfold Client.configureTcpSocket
  refine h.readSocket ?_
  rintro c rfl
  refine (h.syscall (by simp [SysCall.worksOn])).bind fun r ↦ ?_
  cases r with
  | error e => exact maintains_pure _
  | ok u =>
    refine (h.syscall (by simp [SysCall.worksOn])).bind fun r ↦ ?_
    cases r with
    | error e => exact maintains_pure _
    | ok u =>
      refine Maintains.bind ?_ fun n ↦ .ite (maintains_pure _) (h.readSocket fun c' hc' ↦ ?_)
      · refine (h.syscall (by simp [SysCall.worksOn])).bind fun r ↦ ?_
        cases r with
        | error e => exact maintains_pure _
        | ok flags =>
          refine (h.syscall (by simp [SysCall.worksOn])).bind fun r ↦ ?_
          cases r <;> exact maintains_pure _
      · refine (h.syscall (by simp [SysCall.worksOn])).bind fun r ↦ ?_
        cases r <;> exact maintains_pure _

private theorem connectSocket (h : AttemptRules ker fd I)
    (hclose : ∀ t k, I t k → Must ker Client.closeTcpSocket t k fun _ ↦ J)
    (hJ : ∀ t k e, J t k → J { t with errno := e } k) (addr : SockaddrIn) (timeout : Int)
    (hI : I t k) : Must ker (Client.connectSocket addr timeout) t k fun o ↦
    Ends I J (o ≠ none) := by
  have hout (result : UdtcpConnect) {t : Thread UdtcpClient} {k : K} (hI : I t k) : Must ker (do
      Client.closeTcpSocket
      return some result) t k fun o ↦ Ends I J (o ≠ none) :=
    must_bind ((hclose t k hI).mono fun _ _ _ hJ' ↦ must_pure ⟨fun _ ↦ hJ', fun h ↦ (h nofun).elim⟩)
  have hout' (e : Errno) (result : UdtcpConnect) {t : Thread UdtcpClient} {k : K} (hI : I t k) :
      Must ker (do
        Client.closeTcpSocket
        Udtcp.setErrno e
        return some result) t k fun o ↦ Ends I J (o ≠ none) :=
    must_bind ((hclose t k hI).mono fun _ _ _ hJ' ↦
      must_setErrno_bind (must_pure ⟨fun _ ↦ hJ _ _ _ hJ', fun h ↦ (h nofun).elim⟩))
  have hgo {t : Thread UdtcpClient} {k : K} (hI : I t k) :
      Must ker (pure none : ClientProc (Option UdtcpConnect)) t k fun o ↦ Ends I J (o ≠ none) :=
    must_pure ⟨fun h ↦ (h rfl).elim, fun _ ↦ hI⟩
  have hfd := h.tcpSocket t k hI
  unfold Client.connectSocket
  refine must_self_bind (must_syscall_bind fun r k₁ hr ↦ ?_)
  have hI₁ := h.sys _ (by simp [SysCall.worksOn, hfd]) t k r k₁ hI hr
  cases r with
  | ok u => exact hgo hI₁
  | error e =>
    refine must_errno_bind (must_ite (fun _ ↦ must_syscall_bind fun reply k₂ hr' ↦ ?_) fun _ ↦
      hout _ hI₁)
    have hI₂ := h.sys _ (by simp [SysCall.worksOn, hfd]) _ k₁ reply k₂ hI₁ hr'
    cases reply with
    | error e => exact hout _ hI₂
    | ok revents =>
      refine must_ite (fun _ ↦ hout' _ _ hI₂) fun _ ↦ must_ite (fun _ ↦ hout' _ _ hI₂) fun _ ↦ ?_
      exact hgo hI₂

private theorem initializeConnection (h : AttemptRules ker fd I) :
    Maintains ker I Client.initializeConnection := by
  have hwrite (bs : List UInt8) : Maintains ker I (Client.writeRecord bs) := by
    unfold Client.writeRecord
    refine (h.updateInfos _).bind fun _ ↦ ?_
    cases bs[UdtcpInfos.sizeof]? with
    | none => exact maintains_pure _
    | some b => exact maintains_self.bind fun _ ↦ (h.request rfl).bind fun _ ↦ h.issue rfl
  unfold Client.initializeConnection
  refine h.readSocket ?_
  rintro c rfl
  refine Maintains.bind ((h.syscall (by simp [SysCall.worksOn])).bind fun _ ↦ maintains_pure _)
    fun n ↦ .ite (maintains_pure _) (.ite ((h.setErrno _).bind fun _ ↦ maintains_pure _) ?_)
  refine (h.syscall (by simp [SysCall.worksOn])).bind fun r ↦ ?_
  cases r with
  | error e => exact maintains_pure _
  | ok bs =>
    refine (hwrite _).bind fun _ ↦ .ite (maintains_pure _) (.ite (.ite ?_ ?_) ?_)
    · exact maintains_pure _
    · exact maintains_pure _
    · refine maintains_self.bind fun _ ↦ (h.syscall (by simp [SysCall.worksOn])).bind fun r ↦ ?_
      cases r with
      | error e => exact maintains_pure _
      | ok n => exact .ite (maintains_pure _) (maintains_pure _)

private theorem adoptServer (h : AttemptRules ker fd I) (addr : UInt32) :
    Maintains ker I (Client.adoptServer addr) := by
  unfold Client.adoptServer
  refine (h.updateInfos _).bind fun _ ↦ Maintains.bind ?_ fun _ ↦
    maintains_self.bind fun _ ↦ .ite (h.issue rfl) (maintains_pure _)
  intro t k hI tr _ t' k' hm ha
  obtain ⟨u, hu, rfl⟩ := exec_onPart.mp hm
  obtain ⟨name, rfl, -⟩ := exec_udtcpSetStringInfos hu
  obtain ⟨k₁, hk, rfl⟩ := ha
  exact h.errno _ _ u.errno (h.serverInfos _ _ u.self (h.call _ rfl t k name _ hI hk))

end AttemptRules

/-- **Rule for connection attempts.** From the socket that is opened to the one closing of it an
attempt keeps `I`; behind that, and behind a success, `J` holds. -/
theorem must_udtcpConnectClient_of {I : Fd → Thread UdtcpClient → K → Prop}
    {J : Thread UdtcpClient → K → Prop} {t : Thread UdtcpClient} {k : K} {hostname : List UInt8}
    {tcpPort : UInt16} {timeout : Int} (h : ∀ fd, AttemptRules ker fd (I fd))
    (hopen : ∀ (fd : Descriptor) k', ker k (.sys (.socket .stream)) (.ok fd) k' →
      I fd.val { t with self := t.self.setTcpSocket fd.val } k')
    (hfail : ∀ e k', ker k (.sys (.socket .stream)) (.error e) k' →
      Must ker Client.closeTcpSocket ⟨e, t.self.setTcpSocket (-1)⟩ k' fun _ ↦ J)
    (hclose : ∀ fd t k, I fd t k → Must ker Client.closeTcpSocket t k fun _ ↦ J)
    (hJ : ∀ t k e, J t k → J { t with errno := e } k) (hIJ : ∀ fd t k, I fd t k → J t k) :
    Must ker (udtcpConnectClient hostname tcpPort timeout) t k fun _ ↦ J := by
  have hcreate : Must ker Client.createTcpSocket t k fun n t' k' ↦
      Must ker Client.closeTcpSocket t' k' (fun _ ↦ J) ∧ (n ≠ -1 → ∃ fd, I fd t' k') := by
    unfold Client.createTcpSocket
    refine must_syscall_bind fun r k₁ hr ↦ ?_
    cases r with
    | error e => exact must_update_bind (must_pure ⟨hfail e k₁ hr, fun hn ↦ (hn rfl).elim⟩)
    | ok fd =>
      refine must_update_bind (((h fd.val).configureTcpSocket _ _ (hopen fd k₁ hr)).mono ?_)
      exact fun n t₁ k₂ hI ↦ ⟨hclose _ _ _ hI, fun _ ↦ ⟨_, hI⟩⟩
  have hend (result : UdtcpConnect) {t : Thread UdtcpClient} {k : K}
      (hmust : Must ker Client.closeTcpSocket t k fun _ ↦ J) : Must ker (do
        Client.closeTcpSocket
        return result) t k fun _ ↦ J := must_bind (hmust.mono fun _ _ _ hJ' ↦ must_pure hJ')
  unfold udtcpConnectClient
  refine must_bind (hcreate.mono fun n t₁ k₁ ⟨hshut, hopened⟩ ↦ must_ite (fun _ ↦ hend _ hshut) ?_)
  intro hn
  obtain ⟨fd, hI⟩ := hopened hn
  refine must_request_bind fun host k₂ hk ↦ ?_
  have hI₂ := (h fd).call _ rfl t₁ k₁ host k₂ hI hk
  cases host with
  | none => exact must_pure (hIJ _ _ _ hI₂)
  | some host =>
    refine must_update_bind (must_bind (((h fd).connectSocket (hclose fd) hJ _ _
      ((h fd).serverInfos _ _ _ hI₂)).mono fun o t₃ k₃ hI₃ ↦ ?_))
    cases o with
    | some result => exact must_pure (hI₃.1 nofun)
    | none =>
      refine must_bind (((h fd).initializeConnection _ _ (hI₃.2 fun h ↦ h rfl)).mono ?_)
      intro result t₄ k₄ hI₄
      cases result
      case success =>
        exact must_bind (((h fd).adoptServer _ _ _ hI₄).mono fun _ _ _ hI₅ ↦
          must_pure (hIJ _ _ _ hI₅))
      all_goals exact hend _ (hclose _ _ _ hI₄)

/-! ### Passes -/

/-- What a pass must keep, up to a disconnection. -/
structure PassRules (ker : Kernel posix K) (I : Thread UdtcpClient → K → Prop) : Prop where
  revents : ∀ t k revents, I t k → I { t with self := t.self.setRevents revents } k
  flag : ∀ t k r k', I t k → ker k .pollLoop r k' → I t k'
  receiveTcp : Maintains ker I Client.receiveTcp
  receiveUdp : Maintains ker I Client.receiveUdp

namespace PassRules

variable {I J : Thread UdtcpClient → K → Prop} {t : Thread UdtcpClient} {k : K}

-- The invariant of a pass that goes on, or what is left of it where the pass ends.
private def GoesOn (I J : Thread UdtcpClient → K → Prop) (ends : Prop) (t : Thread UdtcpClient)
    (k : K) : Prop := J t k ∧ (¬ ends → I t k)

private theorem serveSocket (h : PassRules ker I) (hIJ : ∀ t k, I t k → J t k)
    (hdrop : ∀ t k, I t k → Must ker Client.disconnect t k fun _ ↦ J) {receive : ClientProc Int}
    (hreceive : Maintains ker I receive) (fuel : Nat) (hI : I t k) :
    Must ker (Client.serveSocket fuel receive) t k fun o ↦ GoesOn I J (o ≠ none) := by
  have hstay {t : Thread UdtcpClient} {k : K} (hI : I t k) :
      Must ker (pure none : ClientProc (Option UdtcpPoll)) t k fun o ↦ GoesOn I J (o ≠ none) :=
    must_pure ⟨hIJ _ _ hI, fun _ ↦ hI⟩
  have hleave {t : Thread UdtcpClient} {k : K} (hI : I t k) : Must ker (do
      Client.disconnect
      return some UdtcpPoll.error) t k fun o ↦ GoesOn I J (o ≠ none) :=
    must_bind ((hdrop t k hI).mono fun _ _ _ hJ ↦ must_pure ⟨hJ, fun h ↦ (h nofun).elim⟩)
  have hdrain : Must ker (drain fuel receive fun n ↦ 0 < n) t k fun _ ↦ I :=
    must_drain (fun _ t k r k' ↦ h.flag t k r k') (hreceive t k hI) fun _ t k hI _ ↦ hreceive t k hI
  unfold Client.serveSocket
  refine must_bind (hdrain.mono fun n t₁ k₁ hI₁ ↦ must_ite (fun _ ↦ must_errno_bind ?_) fun _ ↦ ?_)
  · exact must_ite (fun _ ↦ hleave hI₁) fun _ ↦ hstay hI₁
  · exact must_ite (fun _ ↦ hleave hI₁) fun _ ↦ hstay hI₁

private theorem scanEntry (h : PassRules ker I) (hIJ : ∀ t k, I t k → J t k)
    (hdrop : ∀ t k, I t k → Must ker Client.disconnect t k fun _ ↦ J) (fuel i : Nat) (hI : I t k) :
    Must ker (Client.scanEntry fuel i) t k fun o t' k' ↦
      match o with
      | .inl _ => I t' k'
      | .inr _ => J t' k' := by
  have hserve {t : Thread UdtcpClient} {k : K} (hI : I t k) :
      Must ker (Client.serveEntry fuel i) t k fun o ↦ GoesOn I J (o ≠ none) := by
    have hstop (o : Option UdtcpPoll) : Must ker (pure o : ClientProc (Option UdtcpPoll)) t k
        fun o ↦ GoesOn I J (o ≠ none) := must_pure ⟨hIJ _ _ hI, fun _ ↦ hI⟩
    unfold Client.serveEntry
    refine must_self_bind (must_ite (fun _ ↦ hstop _) fun _ ↦ must_ite (fun _ ↦ hstop _) fun _ ↦ ?_)
    refine must_ite (fun _ ↦ h.serveSocket hIJ hdrop h.receiveTcp fuel hI) fun _ ↦ ?_
    exact must_ite (fun _ ↦ h.serveSocket hIJ hdrop h.receiveUdp fuel hI) fun _ ↦ hstop _
  unfold Client.scanEntry
  refine must_request_bind fun on k₁ hk ↦ must_self_bind ?_
  have hI₁ := h.flag t k on k₁ hI hk
  refine must_ite (fun _ ↦ must_bind ((hserve hI₁).mono fun o t₂ k₂ ho ↦ ?_)) fun _ ↦
    must_pure (hIJ _ _ hI₁)
  cases o with
  | some result => exact must_pure ho.1
  | none => exact must_pure (ho.2 fun h ↦ h rfl)

end PassRules

/-- **Rule for passes.** A pass keeps `I` from its poll on; behind the disconnection that may end
it, and wherever it ends else, `J` holds. -/
theorem must_udtcpClientPoll_of {I J : Thread UdtcpClient → K → Prop} {t : Thread UdtcpClient}
    {k : K} {fuel : Nat} {timeout : Int} (h : PassRules ker I)
    (hpoll : ∀ r k', ker k (.sys (.poll t.self.polled timeout)) r k' → I (t.note r) k')
    (hdrop : ∀ t k, I t k → Must ker Client.disconnect t k fun _ ↦ J)
    (hIJ : ∀ t k, I t k → J t k) :
    Must ker (udtcpClientPoll fuel timeout) t k fun _ ↦ J := by
  unfold udtcpClientPoll
  refine must_self_bind (must_syscall_bind fun reply k₁ hk ↦ ?_)
  have hI := hpoll reply k₁ hk
  cases reply with
  | error e =>
    exact must_errno_bind (must_ite (fun _ ↦ must_pure (hIJ _ _ hI)) fun _ ↦ must_pure (hIJ _ _ hI))
  | ok revents =>
    have hI' := h.revents _ _ (reventsAt revents) hI
    refine must_update_bind (must_ite (fun _ ↦ must_pure (hIJ _ _ hI')) fun _ ↦ ?_)
    refine must_loop (fun _ ↦ I) hI' fun i _ _ hI ↦ (h.scanEntry hIJ hdrop fuel i hI).mono ?_
    intro o _ _ ho
    cases o <;> exact ho

end

end Udtcp
