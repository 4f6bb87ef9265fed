import Udtcp.Buffers.Release
import Udtcp.Client.Rules
import Udtcp.Client.Silent
import Udtcp.Receive.Roles

/-!
# The buffers of a client

A client has a receive buffer and one send structure, which `server_infos` points to from a
successful `udtcp_connect_client` on.
-/

namespace Udtcp

open Interaction Routine

/-- A client and the heap: blocks have their owners, and only the send structure of the client has
one. -/
structure ClientHeap (c : UdtcpClient) (h : Heap) : Prop where
  kept : h.Kept c.buffer
  stored : ∃ v, h.cells c.sendAddr = some v
  owned : ∀ addr v, h.cells addr = some v → v.buffer.isSome → addr = c.sendAddr

namespace ClientHeap

variable {c c' : UdtcpClient} {h h' : Heap}

/-- Changes of the client that the heap does not notice. -/
theorem of_client (hI : ClientHeap c h) (hbuffer : c'.buffer = c.buffer)
    (haddr : c'.addr = c.addr) :
    ClientHeap c' h := by
  have hat : c'.sendAddr = c.sendAddr := by
    unfold UdtcpClient.sendAddr
    rw [haddr]
  refine ⟨hbuffer ▸ hI.kept, ?_, ?_⟩
  · rw [hat]
    exact hI.stored
  · rw [hat]
    exact hI.owned

/-- A store that leaves a structure its block. -/
theorem rewrite (hI : ClientHeap c h) {v w : UdtcpSend} (hv : h.cells c.sendAddr = some v)
    (hptr : w.buffer.map Block.ptr = v.buffer.map Block.ptr) (hsize : w.bufferSize = v.bufferSize) :
    ClientHeap c (h.after (.storeSend c.sendAddr w) ()) := by
  obtain ⟨hkept, hcells⟩ := hI.kept.rewrite hv hptr hsize
  refine ⟨hkept, ⟨w, by rw [hcells, Function.update_self]⟩, fun a x hx hblock ↦ ?_⟩
  by_cases ha : a = c.sendAddr
  · exact ha
  · rw [hcells, Function.update_of_ne ha] at hx
    exact hI.owned a x hx hblock

end ClientHeap

namespace Client

/-! ### Connecting -/

private theorem maintains_closeTcpSocket :
    Maintains heapKernel (OnHeap ClientHeap) closeTcpSocket :=
  maintains_self.bind fun _ ↦ (maintains_inert_syscall rfl).bind fun _ ↦
    maintains_self.bind fun _ ↦ (maintains_inert_syscall rfl).bind fun _ ↦ maintains_pure _

private theorem maintains_setTcpSocket (fd : Fd) :
    Maintains heapKernel (OnHeap ClientHeap) (update (·.setTcpSocket fd)) :=
  maintains_update fun _ _ hI ↦ ClientHeap.of_client hI rfl rfl

private theorem maintains_updateServerInfos (f : UdtcpClient → UdtcpInfos) :
    Maintains heapKernel (OnHeap ClientHeap) (update fun c ↦ { c with serverInfos := f c }) :=
  maintains_update fun _ _ hI ↦ ClientHeap.of_client hI rfl rfl

private theorem maintains_setErrno {P : UdtcpClient → Heap → Prop} (e : Errno) :
    Maintains heapKernel (OnHeap P) (setErrno e : ClientProc Unit) :=
  fun _ _ hI ↦ must_setErrno_bind (f := pure) (must_pure hI)

private theorem maintains_createTcpSocket :
    Maintains heapKernel (OnHeap ClientHeap) createTcpSocket := by
  unfold createTcpSocket
  refine (maintains_inert_syscall rfl).bind fun r ↦ ?_
  cases r with
  | error e => exact (maintains_setTcpSocket _).bind fun _ ↦ maintains_pure _
  | ok fd =>
    refine (maintains_setTcpSocket _).bind fun _ ↦ ?_
    unfold configureTcpSocket
    refine maintains_self.bind fun _ ↦ (maintains_inert_syscall rfl).bind fun r ↦ ?_
    cases r with
    | error e => exact maintains_pure _
    | ok u =>
      refine (maintains_inert_syscall rfl).bind fun r ↦ ?_
      cases r with
      | error e => exact maintains_pure _
      | ok u =>
        refine (maintains_addOption _).bind fun o ↦ .ite (maintains_pure _) ?_
        refine maintains_self.bind fun _ ↦ (maintains_inert_syscall rfl).bind fun r ↦ ?_
        cases r <;> exact maintains_pure _

private theorem must_connectSocket_heap {t : Thread UdtcpClient} {h : Heap}
    (hI : ClientHeap t.self h)
    (addr : SockaddrIn) (timeout : Int) :
    Must heapKernel (connectSocket addr timeout) t h fun o t' h' ↦
      ClientHeap t'.self h' ∧ o ≠ some .success := by
  have hclose {p : ClientProc (Option UdtcpConnect)} {t : Thread UdtcpClient} {h : Heap}
      (hI : ClientHeap t.self h) (hp : ∀ (t' : Thread UdtcpClient) (h' : Heap),
        ClientHeap t'.self h' → Must heapKernel p t' h' fun o t' h' ↦
          ClientHeap t'.self h' ∧ o ≠ some .success) :
      Must heapKernel (closeTcpSocket >>= fun _ ↦ p) t h fun o t' h' ↦
        ClientHeap t'.self h' ∧ o ≠ some .success :=
    must_bind ((maintains_closeTcpSocket t h hI).mono fun _ t' h' hI' ↦ hp t' h' hI')
  unfold connectSocket
  refine must_self_bind (must_inert_syscall rfl fun r ↦ ?_)
  cases r with
  | ok u => exact must_pure ⟨hI, nofun⟩
  | error e =>
    refine must_errno_bind (must_ite (fun _ ↦ ?_) fun _ ↦ hclose hI fun _ _ hI' ↦
      must_pure ⟨hI', nofun⟩)
    refine must_inert_syscall rfl fun reply ↦ ?_
    cases reply with
    | error e => exact hclose hI fun _ _ hI' ↦ must_pure ⟨hI', nofun⟩
    | ok revents =>
      refine must_ite (fun _ ↦ hclose hI fun _ _ hI' ↦ must_setErrno_bind (must_pure ⟨hI', nofun⟩))
        fun _ ↦ must_ite (fun _ ↦ hclose hI fun _ _ hI' ↦
          must_setErrno_bind (must_pure ⟨hI', nofun⟩)) fun _ ↦ must_pure ⟨hI, nofun⟩

private theorem maintains_initializeConnection :
    Maintains heapKernel (OnHeap ClientHeap) initializeConnection := by
  have hwrite (bs : List UInt8) : Maintains heapKernel (OnHeap ClientHeap) (writeRecord bs) := by
    unfold writeRecord
    refine (maintains_updateServerInfos _).bind fun _ ↦ ?_
    cases bs[UdtcpInfos.sizeof]? with
    | none => exact maintains_pure _
    | some b =>
      intro t h hI
      obtain ⟨v, hv⟩ := ClientHeap.stored hI
      refine must_self_bind (must_loadSend hI.kept hv fun mutex ↦ must_issue fun _ h₁ hstore ↦ ?_)
      obtain ⟨-, rfl⟩ := hstore
      exact ClientHeap.rewrite hI hv rfl rfl
  unfold initializeConnection
  refine maintains_self.bind fun c ↦ (maintains_pollIn _).bind fun n ↦ .ite (maintains_pure _) ?_
  refine .ite ((maintains_setErrno _).bind fun _ ↦ maintains_pure _) ?_
  refine (maintains_inert_syscall rfl).bind fun r ↦ ?_
  cases r with
  | error e => exact maintains_pure _
  | ok bs =>
    refine (hwrite _).bind fun _ ↦ .ite (maintains_pure _) ?_
    refine .ite (.ite (maintains_pure _) (maintains_pure _)) ?_
    refine maintains_self.bind fun _ ↦ (maintains_inert_syscall rfl).bind fun r ↦ ?_
    cases r with
    | error e => exact maintains_pure _
    | ok n => exact .ite (maintains_pure _) (maintains_pure _)

/-- The record of the server points to the send structure of the client, if there is a link. -/
structure Linked (link : Bool) (c : UdtcpClient) (h : Heap) : Prop where
  heap : ClientHeap c h
  send : link = true → c.serverInfos.send = c.sendAddr

private theorem must_adoptServer_heap {t : Thread UdtcpClient} {h : Heap} {addr : UInt32}
    (hI : ClientHeap t.self h) :
    Must heapKernel (adoptServer addr) t h fun _ ↦ OnHeap (Linked true) := by
  unfold adoptServer
  refine must_update_bind (must_bind ?_)
  intro tr u t' h' hrun ha
  obtain ⟨w, hw, rfl⟩ := exec_onPart.mp hrun
  obtain ⟨name, rfl, hlink⟩ := exec_udtcpSetStringInfos hw
  obtain ⟨h₁, hk, rfl⟩ := ha
  have hshort : ∀ text, name = some text → NameFits text := by
    rintro text rfl
    exact hk.1
  rw [heapKernel_of_inert rfl hk]
  have hdone : Linked true { t.self with serverInfos := w.self } h :=
    ⟨hI.of_client rfl rfl, fun _ ↦ (hlink hshort).send⟩
  exact must_self_bind (must_ite (fun _ ↦ must_issue fun _ _ hcall ↦
    heapKernel_of_inert rfl hcall ▸ hdone) fun _ ↦ must_pure hdone)

end Client

/-- A connection attempt keeps the owners; one that succeeds makes a link. -/
theorem must_udtcpConnectClient_heap {hostname : List UInt8} {tcpPort : UInt16} {timeout : Int}
    {t : Thread UdtcpClient} {h : Heap} (hI : ClientHeap t.self h) :
    Must heapKernel (udtcpConnectClient hostname tcpPort timeout) t h fun result ↦
      OnHeap (Client.Linked (result = .success)) := by
  have hout {result : UdtcpConnect} (hne : result ≠ .success) {t : Thread UdtcpClient} {h : Heap}
      (hI : ClientHeap t.self h) : Client.Linked (result = .success) t.self h :=
    ⟨hI, fun hlink ↦ absurd (of_decide_eq_true hlink) hne⟩
  have hclose {result : UdtcpConnect} (hne : result ≠ .success) {t : Thread UdtcpClient} {h : Heap}
      (hI : ClientHeap t.self h) : Must heapKernel (do
        Client.closeTcpSocket
        return result) t h fun result ↦ OnHeap (Client.Linked (result = .success)) :=
    must_bind ((Client.maintains_closeTcpSocket t h hI).mono fun _ _ _ hI' ↦
      must_pure (hout hne hI'))
  unfold udtcpConnectClient
  refine must_bind ((Client.maintains_createTcpSocket t h hI).mono fun n t₁ h₁ hI₁ ↦ ?_)
  refine must_ite (fun _ ↦ hclose (by decide) hI₁) fun _ ↦ must_inert_request rfl fun host ↦ ?_
  cases host with
  | none => exact must_pure (hout (by decide) hI₁)
  | some host =>
    refine must_bind ((Client.maintains_updateServerInfos _ _ _ hI₁).mono fun _ t₂ h₂ hI₂ ↦ ?_)
    refine must_bind ((Client.must_connectSocket_heap hI₂ _ _).mono ?_)
    rintro o t₃ h₃ ⟨hI₃, ho⟩
    cases o with
    | some result => exact must_pure (hout (fun heq ↦ ho (congrArg some heq)) hI₃)
    | none =>
      refine must_bind ((Client.maintains_initializeConnection _ _ hI₃).mono ?_)
      intro result t₄ h₄ hI₄
      cases result
      case success =>
        exact must_bind ((Client.must_adoptServer_heap hI₄).mono fun _ _ _ hI₅ ↦ must_pure hI₅)
      all_goals exact hclose (by decide) hI₄

/-! ### Passes -/

private theorem maintains_onBuffer_client {link : Bool} {f : UdtcpClient → Proc ReceiveBuffer Int}
    (hf : ∀ c cells, Maintains heapKernel (OnHeap (Receiving cells)) (f c)) :
    Maintains heapKernel (OnHeap (Client.Linked link))
      (self >>= fun c ↦ Client.onBuffer (f c)) := by
  intro t h hI
  have hI : Client.Linked link t.self h := hI
  refine must_self_bind (must_onPart ?_)
  refine (hf t.self h.cells ⟨t.errno, t.self.buffer⟩ h ⟨hI.heap.kept, rfl⟩).mono ?_
  rintro n u h' ⟨hkept, hcells⟩
  exact ⟨⟨hkept, hcells ▸ hI.heap.stored, hcells ▸ hI.heap.owned⟩, hI.send⟩

/-- A pass keeps the owners and the link. -/
theorem Client.Linked.udtcpClientPoll {link : Bool} (fuel : Nat) (timeout : Int) :
    Maintains heapKernel (OnHeap (Client.Linked link)) (udtcpClientPoll fuel timeout) := by
  have hrules : PassRules heapKernel (OnHeap (Client.Linked link)) :=
    { revents := fun _ _ _ hI ↦ ⟨ClientHeap.of_client (Linked.heap hI) rfl rfl, hI.send⟩
      flag := fun _ _ _ _ hI hk ↦ heapKernel_of_inert rfl hk ▸ hI
      receiveTcp := by
        refine maintains_onBuffer_client fun c cells ↦ maintains_receiveTcpWith
          (fun f hf data ↦ ?_) _
        split at hf
        · cases hf
          rfl
        · cases hf
      receiveUdp := by
        refine maintains_onBuffer_client fun c cells ↦ maintains_receiveUdpWith
          (fun addr f hf data ↦ ?_) _
        have hf := Option.some.inj hf
        split at hf
        · cases hf
          rfl
        · cases hf }
  have hdrop : Maintains heapKernel (OnHeap (Client.Linked link)) Client.disconnect := by
    unfold Client.disconnect
    refine maintains_self.bind fun _ ↦ (maintains_inert_syscall rfl).bind fun _ ↦
      maintains_self.bind fun _ ↦ (maintains_inert_syscall rfl).bind fun _ ↦ ?_
    refine (maintains_update fun _ _ hI ↦ ?_).bind fun _ ↦ maintains_self.bind fun _ ↦
      .ite (maintains_inert_issue rfl) (maintains_pure _)
    exact ⟨ClientHeap.of_client (Linked.heap hI) rfl rfl, hI.send⟩
  intro t h hI
  refine must_udtcpClientPoll_of hrules (fun r h' hk ↦ ?_) hdrop fun _ _ hI ↦ hI
  rw [heapKernel_of_inert rfl hk, OnHeap, Thread.note_self]
  exact hI

/-! ### Creation -/

namespace Client

/-- A client under construction at `addr`, with the heap `h₀` and an empty receive buffer. -/
structure Raised (addr : UInt64) (h₀ : Heap) (c : UdtcpClient) (h : Heap) : Prop where
  heap : h = h₀
  addr : c.addr = addr
  buffer : c.buffer = .empty

private theorem cleared_start {addr a : UInt64} {v : UdtcpSend}
    (hv : (Heap.start.after (.storeSend addr .zero) ()).cells a = some v) :
    v = .zero ∧ a = addr := by
  have hv : Function.update (fun _ ↦ none) addr (some .zero) a = some v := hv
  by_cases ha : a = addr
  · rw [ha, Function.update_self] at hv
    exact ⟨(Option.some.inj hv).symm, ha⟩
  · rw [Function.update_of_ne ha] at hv
    cases hv

private theorem clientHeap_start {c : UdtcpClient} {addr : UInt64} (haddr : c.sendAddr = addr)
    (hbuffer : c.buffer = .empty) :
    ClientHeap c (Heap.start.after (.storeSend addr .zero) ()) := by
  have hcells : (Heap.start.after (.storeSend addr .zero) ()).cells addr = some .zero :=
    Function.update_self addr _ _
  refine ⟨?_, ⟨.zero, ?_⟩, fun a v hv _ ↦ (cleared_start hv).2.trans haddr.symm⟩
  · rw [hbuffer]
    exact Heap.kept_of_zero rfl fun a v hv ↦ (cleared_start hv).1
  · rw [haddr]
    exact hcells

section

variable {addr : UInt64} {h₀ : Heap}

private theorem maintains_modifyClientInfos (f : UdtcpInfos → UdtcpInfos) :
    Maintains heapKernel (OnHeap (Raised addr h₀)) (update (·.modifyClientInfos f)) :=
  maintains_update fun _ _ hr ↦ ⟨hr.heap, hr.addr, hr.buffer⟩

private theorem raises_finishClient (host : Hostent) :
    Maintains heapKernel (OnHeap (Raised addr h₀)) (finishClient host) := by
  unfold finishClient
  refine (maintains_update fun _ _ hr ↦ ?_).bind fun _ ↦
    (maintains_modifyClientInfos _).bind fun _ ↦ Maintains.bind ?_ fun _ ↦ ?_
  · exact ⟨hr.heap, hr.addr, hr.buffer⟩
  · intro t h hr tr u t' h' hrun ha
    obtain ⟨w, hw, rfl⟩ := exec_onPart.mp hrun
    obtain ⟨tr₁, _, t₁, tr₂, rfl, h₁, h₂⟩ := exec_bind.mp hw
    obtain ⟨rfl, -⟩ := exec_copyText h₁
    obtain ⟨rfl, -⟩ := exec_copyText (exec_self_bind.mp h₂)
    obtain rfl := ha
    exact ⟨hr.heap, hr.addr, hr.buffer⟩
  · refine (maintains_update fun _ _ hr ↦ ?_).bind fun _ ↦ maintains_self.bind fun _ ↦
      (maintains_inert_syscall rfl).bind fun _ ↦ maintains_pure _
    exact ⟨hr.heap, hr.addr, rfl⟩

private theorem raises_abandon :
    MaintainsFor heapKernel (OnHeap (Raised addr h₀)) (· = 0) abandon :=
  maintainsFor_of_not fun _ _ _ _ hrun hzero ↦ by cases (exec_abandon hrun).symm.trans hzero

private theorem raises_unblockSockets (host : Hostent) :
    MaintainsFor heapKernel (OnHeap (Raised addr h₀)) (· = 0) (unblockSockets host) := by
  refine .bind (maintains_modifyClientInfos _) fun _ ↦ .bind maintains_self fun _ ↦ ?_
  refine .bind (maintains_addOption _) fun _ ↦ .ite raises_abandon (.bind maintains_self fun _ ↦ ?_)
  exact .bind (maintains_addOption _) fun _ ↦
    .ite raises_abandon (raises_finishClient host).maintainsFor

private theorem raises_bindSockets (host : Hostent) (p q r : UInt16) :
    MaintainsFor heapKernel (OnHeap (Raised addr h₀)) (· = 0) (bindSockets host p q r) := by
  refine .bind (maintains_modifyClientInfos _) fun _ ↦ .bind maintains_self fun _ ↦
    .bind maintains_self fun _ ↦ .bindOption (maintains_bindSocket _ _) raises_abandon fun _ ↦ ?_
  refine .bind (maintains_modifyClientInfos _) fun _ ↦ .bind maintains_self fun _ ↦
    .bind maintains_self fun _ ↦ .bindOption (maintains_bindSocket _ _) raises_abandon fun _ ↦ ?_
  refine .bind (maintains_modifyClientInfos _) fun _ ↦ .bind maintains_self fun _ ↦
    .bind maintains_self fun _ ↦ .bindOption (maintains_bindSocket _ _) raises_abandon fun _ ↦ ?_
  exact .bind (maintains_modifyClientInfos _) fun _ ↦ raises_unblockSockets host

private theorem raises_openSockets (host : Hostent) (p q r : UInt16) :
    MaintainsFor heapKernel (OnHeap (Raised addr h₀)) (· = 0) (openSockets host p q r) := by
  have hoptions (option : SocketOption) (fds : List Fd) :
      Maintains heapKernel (OnHeap (Raised addr h₀)) (setOptions option fds) := by
    induction fds with
    | nil => exact maintains_pure _
    | cons fd fds ih =>
      refine (maintains_inert_syscall rfl).bind fun r ↦ ?_
      cases r with
      | error e => exact maintains_pure _
      | ok u => exact ih
  have hrelease (opened : List Fd) :
      MaintainsFor heapKernel (OnHeap (Raised addr h₀)) (· = 0) (releaseClient opened) :=
    maintainsFor_of_not fun _ _ _ _ hrun hzero ↦ by cases (exec_releaseClient hrun).symm.trans hzero
  refine .bind (maintains_inert_syscall rfl) fun tcp ↦ ?_
  cases tcp with
  | error e => exact hrelease _
  | ok tcp =>
    refine .bind (maintains_modifyClientInfos _) fun _ ↦ .bind (maintains_inert_syscall rfl) ?_
    intro udp
    cases udp with
    | error e => exact hrelease _
    | ok udp =>
      refine .bind (maintains_modifyClientInfos _) fun _ ↦ .bind (maintains_inert_syscall rfl) ?_
      intro other
      cases other with
      | error e => exact hrelease _
      | ok other =>
        refine .bind (maintains_modifyClientInfos _) fun _ ↦ .bind maintains_self fun c ↦ ?_
        refine .bind (hoptions _ _) fun ok ↦ .ite ?_ raises_abandon
        exact .bind (hoptions _ _) fun ok ↦ .ite (raises_bindSockets host p q r) raises_abandon

end

end Client

/-- A client that was created owns its blocks. -/
theorem must_udtcpCreateClient_heap {hostname : List UInt8} {p q r : UInt16}
    {t : Thread UdtcpClient} :
    Must heapKernel (udtcpCreateClient hostname p q r) t .start fun n t' h' ↦
      n = 0 → ClientHeap t'.self h' := by
  unfold udtcpCreateClient
  refine must_inert_request rfl fun host ↦ ?_
  cases host with
  | none => exact must_setErrno_bind (must_pure fun hzero ↦ by cases hzero)
  | some host =>
    refine must_inert_syscall rfl fun addr ↦ ?_
    cases addr with
    | error e => exact must_pure fun hzero ↦ by cases hzero
    | ok addr =>
      refine must_update_bind (must_self_bind (must_issue_bind fun _ h₁ hstore ↦ ?_))
      obtain ⟨-, rfl⟩ := hstore
      refine must_inert_request rfl fun ok ↦ must_ite (fun _ ↦ ?_) fun _ ↦ ?_
      · refine (Client.raises_openSockets host p q r _ _ ⟨rfl, rfl, rfl⟩).mono ?_
        intro n t' h' hr hzero
        obtain ⟨rfl, haddr, hbuffer⟩ := hr hzero
        exact (Client.clientHeap_start rfl rfl).of_client hbuffer haddr
      · exact must_inert_issue rfl (must_pure fun hzero ↦ by cases hzero)

/-! ### Deletion -/

/-- A client that is deleted leaves a balanced ledger. -/
theorem must_udtcpDeleteClient_heap {t : Thread UdtcpClient} {h : Heap}
    (hI : ClientHeap t.self h) :
    Must heapKernel udtcpDeleteClient t h fun _ _ h' ↦ h'.ledger.Balanced := by
  obtain ⟨v, hv⟩ := hI.stored
  have hr : Releasing t.self.buffer [t.self.sendAddr] h :=
    hI.kept.releasing fun addr v hv hblock ↦ List.mem_singleton.mpr (hI.owned addr v hv hblock)
  have hfree (t₁ : Thread UdtcpClient) : Must heapKernel (do
      if 0 < t.self.buffer.bufferSize then
        freeBlock t.self.buffer.bufferData
      else
        pure ()
      let send ← request (.loadSend t.self.sendAddr)
      if 0 < send.bufferSize then
        freeBlock send.buffer
      else
        pure ()
      issue (.mutexDestroy t.self.sendAddr)
      issue .freeClient : ClientProc Unit) t₁ h fun _ _ h' ↦ h'.ledger.Balanced := by
    refine must_freeReceived hr fun h₁ hcells hr₁ ↦ ?_
    refine must_freeSent hr₁ List.not_mem_nil (hcells ▸ hv) fun h₂ _ hr₂ ↦ ?_
    refine must_inert_issue rfl (must_issue fun _ h₃ hlast ↦ ?_)
    rw [heapKernel_of_inert rfl hlast]
    exact hr₂.balanced
  unfold udtcpDeleteClient
  refine must_self_bind (must_bind (must_inert (.ite ((emits_syscall fun _ ↦ rfl).bind fun _ ↦
    emits_pure _) (emits_pure _)) fun _ _ t₁ _ ↦ ?_))
  refine must_closeInert fun t₂ _ ↦ must_closeInert fun t₃ _ ↦ must_closeInert fun t₄ _ ↦ ?_
  exact must_ite (fun _ ↦ must_inert_issue rfl (hfree t₄)) fun _ ↦ hfree t₄

end Udtcp
