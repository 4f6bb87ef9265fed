import Udtcp.Client.Create
import Udtcp.Posix.Observe

/-!
# Dialling

What `udtcp_connect_client` of `connect_client.c:157–270` does to the descriptors of a client:
which socket it opens and connects, and where it writes the number down.
-/

namespace Udtcp

open Interaction Routine

/-- What is seen of a client's connections: stream sockets that are opened, sockets that are
connected, and names found for addresses. -/
inductive Dial where
  | opened (fd : Fd)
  | connect (fd : Fd)
  | named (text : List UInt8)
  deriving DecidableEq, Repr

/-- What is seen of a call, if anything. -/
def dialOf : (c : Call) → c.Reply → Option Dial
  | .sys (.socket .stream), .ok fd => some (.opened fd.val)
  | .sys (.connect fd _), _ => some (.connect fd)
  | .gethostbyaddr _, some text => some (.named text)
  | _, _ => none

/-- The surroundings that answer anything, with what is seen written down. -/
def dialRecorder : Kernel posix (List Dial) := recorder (S := posix) dialOf

/-- What is seen of a trace, oldest first. -/
def dials (tr : Trace posix) : List Dial := tr.filterMap fun e ↦ dialOf e.call e.reply

/-- The client polls descriptor `fd` for input in its first entry. -/
structure UdtcpClient.Watches (c : UdtcpClient) (fd : Fd) : Prop where
  fd : (c.pollFds 0).fd = fd
  events : (c.pollFds 0).events = POLLIN
  pollNfds : c.pollNfds = 2

/-- The object satisfies `L`, and nothing was seen since `ds`. -/
def Unseen {τ : Type} (L : τ → Prop) (ds : List Dial) (t : Thread τ) (ds' : List Dial) : Prop :=
  L t.self ∧ ds' = ds

section

variable {τ : Type} {L : τ → Prop} {ds : List Dial}

/-- A system call that is no dialling shows nothing. -/
theorem unseen_syscall {c : SysCall} (h : ∀ r, dialOf (.sys c) r = none) :
    Maintains dialRecorder (Unseen L ds) (syscall c) := by
  refine maintains_syscall fun t k r k' hI hk ↦ ⟨(t.note_self r).symm ▸ hI.1, ?_⟩
  have hseen : k' = k ++ (dialOf (.sys c) r).toList := hk
  rw [h, Option.toList_none, List.append_nil] at hseen
  exact hseen.trans hI.2

private theorem unseen_issue {c : Call} (h : ∀ r, dialOf c r = none) :
    Maintains dialRecorder (Unseen L ds) (issue c) := by
  refine maintains_issue fun t k r k' hI hk ↦ ⟨hI.1, ?_⟩
  have hseen : k' = k ++ (dialOf c r).toList := hk
  rw [h, Option.toList_none, List.append_nil] at hseen
  exact hseen.trans hI.2

private theorem unseen_request {c : Call} (h : ∀ r, dialOf c r = none) :
    Maintains dialRecorder (Unseen L ds) (request c) := by
  refine maintains_perform fun t k r k' hI hk ↦ ⟨hI.1, ?_⟩
  have hseen : k' = k ++ (dialOf c r).toList := hk
  rw [h, Option.toList_none, List.append_nil] at hseen
  exact hseen.trans hI.2

/-- An update shows nothing. -/
theorem unseen_update {f : τ → τ} (h : ∀ c, L c → L (f c)) :
    Maintains dialRecorder (Unseen L ds) (update f) :=
  maintains_update fun _ _ hI ↦ ⟨h _ hI.1, hI.2⟩

private theorem unseen_pollIn (fd : Fd) : Maintains dialRecorder (Unseen L ds) (pollIn fd) :=
  (unseen_syscall fun _ ↦ rfl).bind fun _ ↦ maintains_pure _

/-- Adding an option shows nothing. -/
theorem unseen_udtcpSocketAddOption (fd : Fd) (option : Nat) :
    Maintains dialRecorder (Unseen L ds) (udtcpSocketAddOption fd option) := by
  unfold udtcpSocketAddOption
  refine (unseen_syscall fun _ ↦ rfl).bind fun r ↦ ?_
  cases r with
  | error e => exact maintains_pure _
  | ok flags =>
    refine (unseen_syscall fun _ ↦ rfl).bind fun r ↦ ?_
    cases r <;> exact maintains_pure _

end

namespace Client

variable {L : UdtcpClient → Prop} {ds : List Dial} {t : Thread UdtcpClient} {fd : Fd}

private theorem unseen_closeTcpSocket : Maintains dialRecorder (Unseen L ds) closeTcpSocket :=
  maintains_self.bind fun _ ↦ (unseen_syscall fun _ ↦ rfl).bind fun _ ↦
    maintains_self.bind fun _ ↦ (unseen_syscall fun _ ↦ rfl).bind fun _ ↦ maintains_pure _

private theorem unseen_configureTcpSocket :
    Maintains dialRecorder (Unseen L ds) configureTcpSocket := by
  unfold configureTcpSocket
  refine maintains_self.bind fun _ ↦ (unseen_syscall fun _ ↦ rfl).bind fun r ↦ ?_
  cases r with
  | error e => exact maintains_pure _
  | ok u =>
    refine (unseen_syscall fun _ ↦ rfl).bind fun r ↦ ?_
    cases r with
    | error e => exact maintains_pure _
    | ok u =>
      refine (unseen_udtcpSocketAddOption _ _).bind fun n ↦ .ite (maintains_pure _) ?_
      refine maintains_self.bind fun _ ↦ (unseen_syscall fun _ ↦ rfl).bind fun r ↦ ?_
      cases r <;> exact maintains_pure _

/-- `create_tcp_socket` opens one stream socket, whose number becomes `client_infos->tcp_socket`. -/
theorem must_createTcpSocket : Must dialRecorder createTcpSocket t ds fun n t' ds' ↦
    ∃ fd, t'.self = t.self.setTcpSocket fd ∧ (n ≠ -1 → ds' = ds ++ [.opened fd]) := by
  unfold createTcpSocket
  refine must_syscall_bind fun r ds₁ hseen ↦ ?_
  have hds : ds₁ = ds ++ (dialOf (.sys (.socket .stream)) r).toList := hseen
  cases r with
  | error e => exact must_update_bind (must_pure ⟨-1, rfl, fun h ↦ (h rfl).elim⟩)
  | ok fd =>
    refine must_update_bind
      ((unseen_configureTcpSocket (L := (· = t.self.setTcpSocket fd.val)) _ _ ⟨rfl, rfl⟩).mono ?_)
    rintro n t' ds' ⟨hself, rfl⟩
    exact ⟨fd.val, hself, fun _ ↦ hds⟩

/-- The connection attempt connects the client's socket and leaves the client alone. -/
theorem must_connectSocket {addr : SockaddrIn} {timeout : Int} :
    Must dialRecorder (connectSocket addr timeout) t ds fun o t' ds' ↦
      o ≠ some .success ∧ t'.self = t.self ∧ ds' = ds ++
        [.connect t.self.clientInfos.tcpSocket] := by
  unfold connectSocket
  refine must_self_bind (must_syscall_bind fun r ds₁ hseen ↦ ?_)
  have hds : ds₁ = ds ++ [.connect t.self.clientInfos.tcpSocket] := hseen
  have hsame : (t.note r).self = t.self := t.note_self r
  generalize t.note r = t₁ at hsame
  rw [← hds, ← hsame]
  have hclose (t₂ : Thread UdtcpClient) (h : t₂.self = t₁.self) (e : Option Errno)
      (o : Option UdtcpConnect) (ho : o ≠ some .success) : Must dialRecorder (do
        closeTcpSocket
        match e with
        | some e => setErrno e
        | none => pure ()
        return o) t₂ ds₁ fun o t' ds' ↦ o ≠ some .success ∧ t'.self = t₁.self ∧ ds' = ds₁ := by
    refine must_bind ((unseen_closeTcpSocket (L := (· = t₁.self)) _ _ ⟨h, rfl⟩).mono ?_)
    rintro _ t₃ ds₃ ⟨hself, hds₃⟩
    cases e with
    | none => exact must_pure ⟨ho, hself, hds₃⟩
    | some e => exact must_setErrno_bind (must_pure ⟨ho, hself, hds₃⟩)
  cases r with
  | ok u => exact must_pure ⟨nofun, rfl, rfl⟩
  | error e =>
    refine must_errno_bind (must_ite (fun _ ↦ ?_) fun _ ↦ hclose t₁ rfl none _ nofun)
    refine must_syscall_bind fun reply ds₂ hreply ↦ ?_
    obtain rfl : ds₂ = ds₁ := hreply.trans (List.append_nil ds₁)
    have hpoll := t₁.note_self reply
    cases reply with
    | error e => exact hclose _ hpoll none _ nofun
    | ok revents =>
      refine must_ite (fun _ ↦ hclose _ hpoll (some _) _ nofun) fun _ ↦ ?_
      refine must_ite (fun _ ↦ hclose _ hpoll (some _) _ nofun) fun _ ↦ ?_
      exact must_pure ⟨nofun, hpoll, rfl⟩

/-- The exchange of records changes `server_infos` only. -/
theorem unseen_initializeConnection (hL : ∀ c r, L c → L { c with serverInfos := r }) :
    Maintains dialRecorder (Unseen L ds) initializeConnection := by
  unfold initializeConnection
  refine maintains_self.bind fun _ ↦ (unseen_pollIn _).bind fun _ ↦ .ite (maintains_pure _)
    (.ite ?_ ?_)
  · exact fun _ _ hI ↦ must_setErrno_bind (must_pure hI)
  refine (unseen_syscall fun _ ↦ rfl).bind fun r ↦ ?_
  cases r with
  | error e => exact maintains_pure _
  | ok bs =>
    have hwrite : Maintains dialRecorder (Unseen L ds) (writeRecord bs.val) := by
      unfold writeRecord
      refine (unseen_update fun c hc ↦ hL c _ hc).bind fun _ ↦ ?_
      cases bs.val[UdtcpInfos.sizeof]? with
      | none => exact maintains_pure _
      | some b =>
        exact maintains_self.bind fun _ ↦ (unseen_request fun _ ↦ rfl).bind fun _ ↦
          unseen_issue fun _ ↦ rfl
    refine hwrite.bind fun _ ↦ .ite (maintains_pure _) (.ite (.ite ?_ ?_) ?_)
    · exact maintains_pure _
    · exact maintains_pure _
    · refine maintains_self.bind fun _ ↦ (unseen_syscall fun _ ↦ rfl).bind fun r ↦ ?_
      cases r with
      | error e => exact maintains_pure _
      | ok n => exact .ite (maintains_pure _) (maintains_pure _)

/-- Taking over the server's record writes the client's descriptor into it; the name found for the
server's address may write over that. -/
theorem must_adoptServer {addr : UInt32} (hL : ∀ c r, L c → L { c with serverInfos := r })
    (hc : L t.self) : Must dialRecorder (adoptServer addr) t ds fun _ t' ds' ↦
      L t'.self ∧ t'.self.clientInfos = t.self.clientInfos ∧ ∃ name : Option (List UInt8),
        ds' = ds ++ (name.map Dial.named).toList ∧
        (t'.self.serverInfos.tcpSocket = t.self.clientInfos.tcpSocket ↔ ∀ text, name = some text →
          Bytes.slice text (UdtcpInfos.tcpSocketOffset - UdtcpInfos.hostnameOffset) 4 <+:
            Bytes.Codec.i32.encode t.self.clientInfos.tcpSocket) := by
  unfold adoptServer
  refine must_update_bind (must_bind (must_onPart ?_))
  intro tr u v ds' htext ha
  obtain ⟨name, rfl, hsocket⟩ := exec_udtcpSetStringInfos_tcpSocket htext
  have hds : ds' = ds ++ (name.map Dial.named).toList := by
    rw [accepts_recorder.mp ha]
    cases name <;> rfl
  refine must_self_bind (must_ite (fun _ ↦ must_issue fun r ds₁ hseen ↦ ?_) fun _ ↦ must_pure ?_)
  · obtain rfl : ds₁ = ds' := hseen.trans (List.append_nil ds')
    exact ⟨hL t.self v.self hc, rfl, name, hds, hsocket⟩
  · exact ⟨hL t.self v.self hc, rfl, name, hds, hsocket⟩

end Client

/-- **Connecting.** A connection attempt does not touch the poll entries. When it succeeds it has
opened and connected one socket, whose number is `client_infos->tcp_socket`, and the same number
stands in `server_infos->tcp_socket` unless the name of the server's address reaches that far. -/
theorem must_udtcpConnectClient {hostname : List UInt8} {tcpPort : UInt16} {timeout : Int}
    {t : Thread UdtcpClient} {ds : List Dial} {fd : Fd} (hw : t.self.Watches fd) :
    Must dialRecorder (udtcpConnectClient hostname tcpPort timeout) t ds fun result t' ds' ↦
      t'.self.Watches fd ∧ (result = .success → ∃ (sock : Fd) (name : Option (List UInt8)),
        ds' = ds ++ ([.opened sock, .connect sock] ++ (name.map Dial.named).toList) ∧
        t'.self.clientInfos.tcpSocket = sock ∧
        (t'.self.serverInfos.tcpSocket = sock ↔ ∀ text, name = some text →
          Bytes.slice text (UdtcpInfos.tcpSocketOffset - UdtcpInfos.hostnameOffset) 4 <+:
            Bytes.Codec.i32.encode sock)) := by
  have hkeep (c : UdtcpClient) (r : UdtcpInfos) (hc : c.Watches fd) :
      UdtcpClient.Watches { c with serverInfos := r } fd := ⟨hc.fd, hc.events, hc.pollNfds⟩
  unfold udtcpConnectClient
  refine must_bind (Client.must_createTcpSocket.mono ?_)
  rintro n t₁ ds₁ ⟨sock, hself₁, hseen₁⟩
  have hw₁ : t₁.self.Watches fd := by
    rw [hself₁]
    exact ⟨hw.fd, hw.events, hw.pollNfds⟩
  refine must_ite (fun _ ↦ ?_) fun hn ↦ ?_
  · refine must_bind ((Client.unseen_closeTcpSocket (L := (·.Watches fd)) _ _ ⟨hw₁, rfl⟩).mono ?_)
    exact fun _ _ _ hI ↦ must_pure ⟨hI.1, fun h ↦ nomatch h⟩
  refine must_request_bind fun host ds₂ hhost ↦ ?_
  obtain rfl : ds₂ = ds₁ := hhost.trans (List.append_nil ds₁)
  cases host with
  | none => exact must_pure ⟨hw₁, fun h ↦ nomatch h⟩
  | some host =>
    refine must_update_bind (must_bind (Client.must_connectSocket.mono ?_))
    rintro o t₂ ds₂ ⟨ho, hself₂, hseen₂⟩
    have hw₂ : t₂.self.Watches fd := by
      rw [hself₂]
      exact hkeep _ _ hw₁
    have hsock : t₂.self.clientInfos.tcpSocket = sock := by
      rw [hself₂]
      exact congrArg (·.clientInfos.tcpSocket) hself₁
    cases o with
    | some result => exact must_pure ⟨hw₂, fun h ↦ (ho (congrArg some h)).elim⟩
    | none =>
      have hinit : Maintains dialRecorder
          (Unseen (fun c ↦ c.Watches fd ∧ c.clientInfos.tcpSocket = sock) ds₂)
          Client.initializeConnection :=
        Client.unseen_initializeConnection fun c r hc ↦ ⟨hkeep c r hc.1, hc.2⟩
      refine must_bind ((hinit _ _ ⟨⟨hw₂, hsock⟩, rfl⟩).mono ?_)
      rintro result t₃ ds₃ ⟨⟨hw₃, hsock₃⟩, rfl⟩
      have hfail (result : UdtcpConnect) (hr : result ≠ .success) : Must dialRecorder (do
          Client.closeTcpSocket
          return result) t₃ ds₃ fun result t' ds' ↦ t'.self.Watches fd ∧ result ≠ .success :=
        must_bind ((Client.unseen_closeTcpSocket (L := (·.Watches fd)) _ _ ⟨hw₃, rfl⟩).mono
          fun _ _ _ hI ↦ must_pure ⟨hI.1, hr⟩)
      cases result with
      | success =>
        refine must_bind ((Client.must_adoptServer (L := (·.Watches fd)) hkeep hw₃).mono ?_)
        rintro _ t₄ ds₄ ⟨hw₄, hinfos, name, hds₄, hname⟩
        refine must_pure ⟨hw₄, fun _ ↦ ⟨sock, name, ?_, ?_, ?_⟩⟩
        · rw [hds₄, hseen₂, hseen₁ hn, hself₁, List.append_assoc, List.append_assoc]
          rfl
        · rw [hinfos, hsock₃]
        · rw [hsock₃] at hname
          exact hname
      | error => exact (hfail .error nofun).mono fun _ _ _ hI ↦ ⟨hI.1, fun h ↦ (hI.2 h).elim⟩
      | timeout => exact (hfail .timeout nofun).mono fun _ _ _ hI ↦ ⟨hI.1, fun h ↦ (hI.2 h).elim⟩
      | tooMany => exact (hfail .tooMany nofun).mono fun _ _ _ hI ↦ ⟨hI.1, fun h ↦ (hI.2 h).elim⟩

end Udtcp
