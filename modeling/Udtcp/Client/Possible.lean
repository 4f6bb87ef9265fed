import Udtcp.Client.Dial
import Udtcp.Server.Possible

/-!
# Client runs that can happen

A creation and a connection attempt in which every call succeeds, over any descriptors.
-/

namespace Udtcp

open Interaction Routine

/-- The arrival of the server's record. -/
def recordReply (fd : Fd) (bs : List UInt8) (hbs : bs.length = UdtcpInfos.sizeof) : Event posix :=
  ⟨.sys (.recv fd .record (UdtcpInfos.sizeof + 1)), .ok ⟨bs, UdtcpInfos.length_le_of_record hbs⟩⟩

/-- The calls of a creation that succeeds. -/
def creationCalls (tcp udp other : Descriptor) : Trace posix := [
  ⟨.gethostbyname [], some ⟨[], 0⟩⟩,
  ⟨.sys .newClient, .ok (0 : UInt64)⟩,
  ⟨.storeSend (UdtcpClient.zero 0).sendAddr .zero, ()⟩,
  ⟨.mutexInit (UdtcpClient.zero 0).sendAddr, true⟩,
  ⟨.sys (.socket .stream), .ok tcp⟩,
  ⟨.sys (.socket .dgram), .ok udp⟩,
  ⟨.sys (.socket .dgram), .ok other⟩,
  ⟨.sys (.setsockopt tcp.val .reuseAddr), .ok ()⟩,
  ⟨.sys (.setsockopt udp.val .reuseAddr), .ok ()⟩,
  ⟨.sys (.setsockopt other.val .reuseAddr), .ok ()⟩,
  ⟨.sys (.setsockopt tcp.val .reusePort), .ok ()⟩,
  ⟨.sys (.setsockopt udp.val .reusePort), .ok ()⟩,
  ⟨.sys (.setsockopt udp.val .reusePort), .ok ()⟩,
  ⟨.sys (.bind tcp.val (bindAddr 0 0)), .ok ()⟩,
  ⟨.sys (.getsockname tcp.val), .ok SockaddrIn.zero⟩,
  ⟨.sys (.bind udp.val (bindAddr 0 0)), .ok ()⟩,
  ⟨.sys (.getsockname udp.val), .ok SockaddrIn.zero⟩,
  ⟨.sys (.bind other.val (bindAddr 0 0)), .ok ()⟩,
  ⟨.sys (.getsockname other.val), .ok SockaddrIn.zero⟩,
  ⟨.sys (.getfl tcp.val), .ok (0 : Nat)⟩,
  ⟨.sys (.setfl tcp.val (Nat.lor 0 O_NONBLOCK)), .ok ()⟩,
  ⟨.sys (.getfl udp.val), .ok (0 : Nat)⟩,
  ⟨.sys (.setfl udp.val (Nat.lor 0 O_NONBLOCK)), .ok ()⟩,
  ⟨.sys (.close tcp.val), .ok ()⟩]

/-- The calls of a connection attempt of client `c` to `addr` that succeeds, before the callback. -/
def connectionCalls (c : UdtcpClient) (sock : Descriptor) (addr : UInt32) (bs : List UInt8)
    (hbs : bs.length = UdtcpInfos.sizeof) : Trace posix := [
  ⟨.sys (.socket .stream), .ok sock⟩,
  ⟨.sys (.setsockopt sock.val .reuseAddr), .ok ()⟩,
  ⟨.sys (.setsockopt sock.val .reusePort), .ok ()⟩,
  ⟨.sys (.getfl sock.val), .ok (0 : Nat)⟩,
  ⟨.sys (.setfl sock.val (Nat.lor 0 O_NONBLOCK)), .ok ()⟩,
  ⟨.sys (.bind sock.val c.clientInfos.tcpAddr), .ok ()⟩,
  ⟨.gethostbyname [], some ⟨[], addr⟩⟩,
  ⟨.sys (.connect sock.val ⟨AF_INET, htons 0, addr, .replicate 8 0⟩), .ok ()⟩,
  ⟨.sys (.poll [⟨sock.val, POLLIN, 0⟩] (-1)), .ok (Vector.replicate 1 POLLIN)⟩,
  recordReply sock.val bs hbs,
  ⟨.sys (.send sock.val (c.setTcpSocket sock.val).clientInfos.encode),
    .ok ⟨UdtcpInfos.sizeof, Nat.le_of_eq (UdtcpInfos.length_encode _).symm⟩⟩]

namespace Client

variable {α : Type} {t : Thread UdtcpClient} {Q : Trace posix → α → Thread UdtcpClient → Prop}

private theorem may_bindSocketBind {fd : Fd} {addr : SockaddrIn}
    {k : Option SockaddrIn → ClientProc α}
    (h : May (k (some .zero)) t fun tr a t' ↦
      Q (⟨.sys (.bind fd addr), .ok ()⟩ ::
        ⟨.sys (.getsockname fd), .ok SockaddrIn.zero⟩ :: tr) a t') :
    May (bindSocket fd addr >>= k) t Q :=
  may_bind (may_syscall_bind (.ok ()) (may_syscall_bind (.ok .zero) (may_pure h)))

private theorem may_addOptionBind {fd : Fd} {option : Nat} {k : Int → ClientProc α}
    (h : May (k 0) t fun tr a t' ↦ Q (⟨.sys (.getfl fd), .ok (0 : Nat)⟩ ::
      ⟨.sys (.setfl fd (Nat.lor 0 option)), .ok ()⟩ :: tr) a t') :
    May (udtcpSocketAddOption fd option >>= k) t Q :=
  may_bind (may_syscall_bind (.ok (0 : Nat)) (may_syscall_bind (.ok ()) (may_pure h)))

/-- A whole record replaces the one that was there. -/
theorem writeRecord_of_length {bs : List UInt8} (hbs : bs.length = UdtcpInfos.sizeof) :
    writeRecord bs = update fun c ↦ { c with serverInfos := c.serverInfos.patch 0 bs } := by
  have hnone : bs[UdtcpInfos.sizeof]? = none := List.getElem?_eq_none (Nat.le_of_eq hbs)
  unfold writeRecord
  rw [hnone]
  exact bind_pure _

private theorem may_hostText (t : Thread UdtcpInfos) :
    May (do
      copyText UdtcpInfos.hostnameOffset []
      copyText UdtcpInfos.ipOffset (inetNtoa (← self).tcpAddr.sAddr)) t fun tr _ t' ↦
        tr = [] ∧ t'.self.tcpSocket = t.self.tcpSocket := by
  refine may_bind (may_copyText (by decide) (may_self_bind (may_copyText ?_ ⟨rfl, ?_⟩)))
  · have hip := length_inetNtoa (t.self.patch UdtcpInfos.hostnameOffset []).tcpAddr.sAddr
    simp only [UdtcpInfos.ipOffset, UdtcpInfos.sizeof]
    omega
  · have hip := length_inetNtoa (t.self.patch UdtcpInfos.hostnameOffset []).tcpAddr.sAddr
    dsimp only
    rw [UdtcpInfos.patch_nil] at hip ⊢
    exact (UdtcpInfos.sameLink_patch _ (by decide)
      (by rw [UdtcpInfos.ipOffset]; omega)).tcpSocket

private theorem may_finishClient (t : Thread UdtcpClient) (addr : UInt32) :
    May (finishClient ⟨[], addr⟩) t fun tr n t' ↦ n = 0 ∧
      tr = [⟨.sys (.close t.self.clientInfos.tcpSocket), .ok ()⟩] ∧
      t'.self.clientInfos.tcpSocket = t.self.clientInfos.tcpSocket := by
  unfold finishClient
  refine may_update_bind (may_update_bind (may_bind (may_onPart ?_)))
  refine (may_hostText _).mono fun tr _ u ⟨htr, hsock⟩ ↦ ?_
  refine may_update_bind (may_self_bind (may_syscall_bind (.ok ()) (may_pure ⟨rfl, ?_, hsock⟩)))
  rw [htr]
  exact congrArg (fun fd ↦ [(⟨.sys (.close fd), .ok ()⟩ : Event posix)]) hsock

private theorem may_initializeConnection (t : Thread UdtcpClient) {bs : List UInt8}
    (hbs : bs.length = UdtcpInfos.sizeof) :
    May initializeConnection t fun tr result t' ↦ result = .success ∧
      tr = [⟨.sys (.poll [⟨t.self.clientInfos.tcpSocket, POLLIN, 0⟩] (-1)),
        .ok (Vector.replicate 1 POLLIN)⟩,
        recordReply t.self.clientInfos.tcpSocket bs hbs,
        ⟨.sys (.send t.self.clientInfos.tcpSocket t.self.clientInfos.encode),
          .ok ⟨UdtcpInfos.sizeof, Nat.le_of_eq (UdtcpInfos.length_encode _).symm⟩⟩] ∧
      t'.self = { t.self with serverInfos := t.self.serverInfos.patch 0 bs } := by
  have hpos : ¬ bs.length = 0 := by
    rw [hbs]
    decide
  unfold initializeConnection
  refine may_self_bind (may_bind (may_syscall_bind (.ok (Vector.replicate 1 POLLIN)) (may_pure ?_)))
  refine may_if_neg (show ¬ (1 : Int) < 0 by decide)
    (may_if_neg (show ¬ (1 : Int) = 0 by decide) ?_)
  refine may_syscall_bind (.ok ⟨bs, UdtcpInfos.length_le_of_record hbs⟩) ?_
  dsimp only
  rw [writeRecord_of_length hbs]
  refine may_update_bind (may_if_neg hpos (may_if_neg (not_not.mpr hbs) ?_))
  refine may_self_bind (may_syscall_bind
    (.ok ⟨UdtcpInfos.sizeof, Nat.le_of_eq (UdtcpInfos.length_encode _).symm⟩) ?_)
  exact may_if_neg (not_not.mpr rfl) (may_pure ⟨rfl, rfl, rfl⟩)

/-- The announcement of a connection, if a callback is there. -/
def announcement (c : UdtcpClient) (r : UdtcpInfos) : Trace posix :=
  if c.connectCallback then [⟨.callback (.connect 1 r), ()⟩] else []

private theorem may_adoptServer (t : Thread UdtcpClient) (addr : UInt32) :
    May (adoptServer addr) t fun tr _ t' ↦ ∃ key r,
      tr = ⟨.gethostbyaddr key, none⟩ :: announcement t.self r ∧
      t'.self = { t.self with serverInfos := r } := by
  unfold adoptServer
  refine may_update_bind (may_bind (may_onPart ?_))
  refine (may_udtcpSetStringInfos _ _).mono fun tr _ u ⟨htr, _⟩ ↦ may_self_bind ?_
  obtain ⟨key, rfl⟩ : ∃ key, tr = [⟨.gethostbyaddr key, none⟩] := ⟨_, htr⟩
  by_cases hcb : t.self.connectCallback = true
  · refine may_if_pos hcb (may_issue () ⟨key, u.self, ?_, rfl⟩)
    rw [announcement, if_pos hcb]
    rfl
  · refine may_if_neg hcb (may_pure ⟨key, u.self, ?_, rfl⟩)
    rw [announcement, if_neg hcb]
    rfl

end Client

/-- A creation that succeeds, with the stream socket closed at its end. -/
theorem may_udtcpCreateClient (t : Thread UdtcpClient) (tcp udp other : Descriptor) :
    May (udtcpCreateClient [] 0 0 0) t fun tr n t' ↦ n = 0 ∧ tr = creationCalls tcp udp other ∧
      t'.self.clientInfos.tcpSocket = tcp.val := by
  unfold udtcpCreateClient
  refine may_request_bind (some ⟨[], 0⟩) (may_syscall_bind (.ok (0 : UInt64)) ?_)
  refine may_update_bind (may_self_bind (may_issue_bind () (may_request_bind true ?_)))
  refine may_if_pos rfl ?_
  unfold Client.openSockets
  refine may_syscall_bind (.ok tcp) (may_update_bind ?_)
  refine may_syscall_bind (.ok udp) (may_update_bind ?_)
  refine may_syscall_bind (.ok other) (may_update_bind ?_)
  unfold Client.setReuse
  refine may_self_bind (may_bind ?_)
  refine may_syscall_bind (.ok ()) (may_syscall_bind (.ok ()) (may_syscall_bind (.ok ()) ?_))
  refine may_pure (may_if_pos rfl (may_bind ?_))
  refine may_syscall_bind (.ok ()) (may_syscall_bind (.ok ()) (may_syscall_bind (.ok ()) ?_))
  refine may_pure (may_if_pos rfl ?_)
  unfold Client.bindSockets
  refine may_update_bind (may_self_bind (may_self_bind (Client.may_bindSocketBind ?_)))
  refine may_update_bind (may_self_bind (may_self_bind (Client.may_bindSocketBind ?_)))
  refine may_update_bind (may_self_bind (may_self_bind (Client.may_bindSocketBind ?_)))
  refine may_update_bind ?_
  unfold Client.unblockSockets
  refine may_update_bind (may_self_bind (Client.may_addOptionBind (may_if_neg (by decide) ?_)))
  refine may_self_bind (Client.may_addOptionBind (may_if_neg (by decide) ?_))
  refine (Client.may_finishClient _ _).mono fun tr n t' ⟨hn, htr, hsock⟩ ↦ ⟨hn, ?_, hsock⟩
  rw [htr]
  rfl

/-- A connection attempt that succeeds. -/
theorem may_udtcpConnectClient (t : Thread UdtcpClient) (sock : Descriptor) (addr : UInt32)
    {bs : List UInt8} (hbs : bs.length = UdtcpInfos.sizeof) :
    May (udtcpConnectClient [] 0 0) t fun tr result t' ↦ result = .success ∧ ∃ key r,
      tr = connectionCalls t.self sock addr bs hbs ++ ⟨.gethostbyaddr key, none⟩ ::
        Client.announcement t.self r ∧
      t'.self = { t.self.setTcpSocket sock.val with serverInfos := r } := by
  unfold udtcpConnectClient Client.createTcpSocket
  refine may_bind (may_syscall_bind (.ok sock) (may_update_bind ?_))
  unfold Client.configureTcpSocket
  refine may_self_bind (may_syscall_bind (.ok ()) (may_syscall_bind (.ok ()) ?_))
  refine Client.may_addOptionBind (may_if_neg (by decide) (may_self_bind ?_))
  refine may_syscall_bind (.ok ()) (may_pure (may_if_neg (by decide) ?_))
  refine may_request_bind (some ⟨[], addr⟩) (may_update_bind (may_bind ?_))
  unfold Client.connectSocket
  refine may_self_bind (may_syscall_bind (.ok ()) (may_pure (may_bind ?_)))
  refine (Client.may_initializeConnection _ hbs).mono fun tr₁ result t₁ ⟨hr, htr₁, hself₁⟩ ↦ ?_
  subst hr
  refine may_bind ((Client.may_adoptServer _ _).mono fun tr₂ _ t₂ ⟨key, r, htr₂, hself₂⟩ ↦ ?_)
  refine may_pure ⟨rfl, key, r, ?_, ?_⟩
  · rw [htr₁, htr₂, hself₁, List.append_nil]
    rfl
  · exact hself₂.trans (congrArg (fun c : UdtcpClient ↦ { c with serverInfos := r }) hself₁)

/-- A pass in which the connection is found to be broken: the client disconnects. -/
theorem may_udtcpClientPoll {t : Thread UdtcpClient} (hn : t.self.pollNfds = 2)
    (hfd : (t.self.pollFds 0).fd = t.self.clientInfos.tcpSocket) :
    May (udtcpClientPoll 1 0) t fun _ result t' ↦ result = .error ∧
      t'.self.clientInfos = { t.self.clientInfos with tcpSocket := -1 } := by
  obtain ⟨reply, hcount, hready⟩ : ∃ reply : (SysCall.poll t.self.polled 0).Result,
      pollCount (.ok reply) ≠ 0 ∧ reventsAt reply 0 = POLLIN := by
    have hpolled : t.self.polled = [t.self.pollFds 0, t.self.pollFds 1] := by
      rw [UdtcpClient.polled, hn]
      rfl
    rw [hpolled]
    exact ⟨(#v[POLLIN, 0] : Vector UInt16 2), (by decide : (1 : Int) ≠ 0), rfl⟩
  have hentry : (t.self.setRevents (reventsAt reply)).pollFds 0 =
      { t.self.pollFds 0 with revents := POLLIN } := by
    rw [← hready]
    exact if_pos (by omega)
  unfold udtcpClientPoll
  refine may_self_bind (may_syscall_bind (.ok reply) (may_update_bind (may_if_neg hcount ?_)))
  refine may_bind (may_request_bind true (may_self_bind (may_if_pos ?_ (may_bind ?_))))
  · simp [UdtcpClient.setRevents, hn]
  unfold Client.serveEntry
  refine may_self_bind (may_if_neg ?_ (may_if_neg ?_ (may_if_pos ?_ (may_bind ?_))))
  · rw [Thread.note_ok, hentry]
    exact (by decide : ¬ POLLIN = 0)
  · rw [Thread.note_ok, hentry]
    exact (by decide : ¬ POLLIN &&& POLLIN = 0)
  · rw [Thread.note_ok, hentry]
    exact hfd
  refine may_drain 0 _ ?_
  refine may_self_bind (may_onPart (may_syscall_bind (.error (.other 104)) (may_pure ?_)))
  refine may_if_pos (by decide) (may_errno_bind (may_if_pos nofun (may_bind ?_)))
  refine may_self_bind (may_syscall_bind (.ok ()) (may_self_bind (may_syscall_bind (.ok ()) ?_)))
  refine may_update_bind (may_self_bind ?_)
  by_cases hcb : t.self.disconnectCallback = true
  · exact may_if_pos hcb (may_issue () (may_pure (may_pure (may_pure ⟨rfl, rfl⟩))))
  · exact may_if_neg hcb (may_pure (may_pure (may_pure (may_pure ⟨rfl, rfl⟩))))

end Udtcp
