import Udtcp.Client.Calls
import Udtcp.Client.Possible
import Udtcp.Interaction.Twins
import Udtcp.Table.Run

/-!
# What the peer's record decides

Two runs of `accept_client`, and two of `udtcp_connect_client`, from one state, that are answered
alike but for the record received from the peer: the descriptors, the identity, the send structure
and the IP addresses of the connection come out the same, and so does everything else in the
table.
-/

namespace Udtcp

open Interaction Routine

/-- A record received whole. -/
def Whole {len : Nat} : Except Errno {bs : List UInt8 // bs.length ≤ len} → Prop
  | .ok bs => bs.val.length = UdtcpInfos.sizeof
  | .error _ => False

/-- The same answer twice; for the record of a peer, two that are received whole. -/
def SameReply : (c : Call) → c.Reply → c.Reply → Prop
  | .sys (.recv _ .record _), r, r' => Whole r ∧ Whole r'
  | _, r, r' => r = r'

/-- Answers that differ at most in the record of the peer: calls that are the same in both runs
are answered the same, and names fit. -/
def OtherRecord (e e' : Event posix) : Prop :=
  (∀ c r r', e = ⟨c, r⟩ → e' = ⟨c, r'⟩ → SameReply c r r') ∧
    AnswerFits e.call e.reply ∧ AnswerFits e'.call e'.reply

/-- What a connection uses locally is the same in two records. -/
structure SameHandles (r r' : UdtcpInfos) : Prop where
  id : r'.id = r.id
  send : r'.send = r.send
  tcpSocket : r'.tcpSocket = r.tcpSocket
  udpServerSocket : r'.udpServerSocket = r.udpServerSocket
  udpClientSocket : r'.udpClientSocket = r.udpClientSocket
  tcpAddr : r'.tcpAddr.sAddr = r.tcpAddr.sAddr
  udpServerAddr : r'.udpServerAddr.sAddr = r.udpServerAddr.sAddr
  udpClientAddr : r'.udpClientAddr.sAddr = r.udpClientAddr.sAddr

/-- A record has its own handles. -/
theorem SameHandles.refl (r : UdtcpInfos) : SameHandles r r :=
  ⟨rfl, rfl, rfl, rfl, rfl, rfl, rfl, rfl⟩

/-! ### Two runs, statement by statement -/

section

variable {τ α β : Type} {t t' : Thread τ} {Q : α → Thread τ → β → Thread τ → Prop}

private theorem twins_syscall_bind {c : SysCall} {f : Except Errno c.Result → Proc τ α}
    {f' : Except Errno c.Result → Proc τ β}
    (h : ∀ r r', SameReply (.sys c) r r' →
      Twins OtherRecord (f r) (f' r') (t.note r) (t'.note r') Q) :
    Twins OtherRecord (syscall c >>= f) (syscall c >>= f') t t' Q := by
  intro tr a u tr' b u' rest rest' hm hm' halike
  obtain ⟨r, tr, rfl, hr⟩ := exec_syscall_bind.mp hm
  obtain ⟨r', tr', rfl, hr'⟩ := exec_syscall_bind.mp hm'
  obtain ⟨⟨hsame, -, -⟩, halike⟩ := halike
  exact h r r' (hsame _ _ _ rfl rfl) _ _ _ _ _ _ _ _ hr hr' halike

private theorem twins_issue_bind {c c' : Call} {f : Unit → Proc τ α} {f' : Unit → Proc τ β}
    (h : Twins OtherRecord (f ()) (f' ()) t t' Q) :
    Twins OtherRecord (issue c >>= f) (issue c' >>= f') t t' Q := by
  intro tr a u tr' b u' rest rest' hm hm' halike
  obtain ⟨r, tr, rfl, hr⟩ := exec_issue_bind.mp hm
  obtain ⟨r', tr', rfl, hr'⟩ := exec_issue_bind.mp hm'
  exact h _ _ _ _ _ _ _ _ hr hr' halike.2

private theorem twins_issue {c c' : Call} {Q : Unit → Thread τ → Unit → Thread τ → Prop}
    (h : Q () t () t') : Twins OtherRecord (issue c) (issue c') t t' Q :=
  @twins_issue_bind _ _ _ _ _ _ _ _ pure pure (twins_pure h)

private theorem twins_self_bind {f : τ → Proc τ α} {f' : τ → Proc τ β}
    (h : Twins OtherRecord (f t.self) (f' t'.self) t t' Q) :
    Twins OtherRecord (self >>= f) (self >>= f') t t' Q := h

private theorem twins_update_bind {g g' : τ → τ} {f : Unit → Proc τ α} {f' : Unit → Proc τ β}
    (h : Twins OtherRecord (f ()) (f' ()) { t with self := g t.self } { t' with self := g' t'.self }
      Q) :
    Twins OtherRecord (update g >>= f) (update g' >>= f') t t' Q := h

/-- Only the record of the peer may differ. -/
theorem settled_of_ne {e : Event posix} (h : ∀ fd len, e.call ≠ .sys (.recv fd .record len)) :
    Settled OtherRecord e := by
  obtain ⟨c, r⟩ := e
  intro r' hsame
  have hreply := hsame.1 c r r' rfl rfl
  unfold SameReply at hreply
  split at hreply
  · exact absurd rfl (h _ _)
  · exact hreply.symm

/-- Whatever is made of the reverse lookup of two addresses, the links are kept. -/
theorem twins_udtcpSetStringInfos {addr addr' : UdtcpInfos → SockaddrIn}
    {t t' : Thread UdtcpInfos} :
    Twins OtherRecord (udtcpSetStringInfos addr) (udtcpSetStringInfos addr') t t'
      fun _ u _ u' ↦ t.self.SameLink u.self ∧ t'.self.SameLink u'.self := by
  intro tr _ u tr' _ u' rest rest' hm hm' halike
  obtain ⟨name, rfl, hlink⟩ := exec_udtcpSetStringInfos hm
  obtain ⟨name', rfl, hlink'⟩ := exec_udtcpSetStringInfos hm'
  obtain ⟨⟨-, hfits, hfits'⟩, halike⟩ := halike
  refine ⟨halike, hlink fun text htext ↦ ?_, hlink' fun text htext ↦ ?_⟩
  · subst htext
    exact hfits
  · subst htext
    exact hfits'

private theorem twins_udtcpSocketAddOption {fd : Fd} {option : Nat}
    {Q : Int → Thread τ → Int → Thread τ → Prop} (h : ∀ n u, u.self = t.self → Q n u n u) :
    Twins OtherRecord (udtcpSocketAddOption fd option) (udtcpSocketAddOption fd option) t t Q :=
  twins_self (emits_udtcpSocketAddOption (fun _ ↦ settled_of_ne nofun)
    fun _ _ ↦ settled_of_ne nofun) fun _ n u hm ↦ h n u (exec_udtcpSocketAddOption hm).1

private theorem twins_pollIn {fd : Fd} {Q : Int → Thread τ → Int → Thread τ → Prop}
    (h : ∀ n u, u.self = t.self → Q n u n u) :
    Twins OtherRecord (pollIn fd) (pollIn fd) t t Q := by
  have hpoll : Emits (Settled OtherRecord) (syscall (.poll [⟨fd, POLLIN, 0⟩] (-1)) : Proc τ _) :=
    emits_syscall fun _ ↦ settled_of_ne nofun
  refine twins_self (hpoll.bind fun _ ↦ emits_pure _) fun tr n u hm ↦ h n u ?_
  obtain ⟨polled, -, -, rfl⟩ := exec_pollIn.mp hm
  exact Thread.note_self _ _

end

/-! ### The server -/

section Server

variable {m : Nat} {t t' : Thread (UdtcpServer m)} {slot : Nat}

private theorem twins_writeRecord {bs bs' : List UInt8} (hb : bs.length = UdtcpInfos.sizeof)
    (hb' : bs'.length = UdtcpInfos.sizeof) :
    Twins OtherRecord (writeRecord slot bs) (writeRecord slot bs') t t' fun _ u _ u' ↦
      u.self = t.self.modifyInfos slot (·.patch 0 bs) ∧
      u'.self = t'.self.modifyInfos slot (·.patch 0 bs') := by
  intro tr _ u tr' _ u' rest rest' hm hm' halike
  obtain ⟨-, -, -, hw⟩ := exec_writeRecord hm
  obtain ⟨-, -, -, hw'⟩ := exec_writeRecord hm'
  obtain ⟨rfl, hu⟩ := hw (Nat.le_of_eq hb)
  obtain ⟨rfl, hu'⟩ := hw' (Nat.le_of_eq hb')
  exact ⟨halike, hu, hu'⟩

/-- Both handshakes fail in the same place, or both are completed with the record of the peer in
the slot. -/
theorem twins_initializeConnection (hslot : 0 < slot) :
    Twins OtherRecord (initializeConnection slot) (initializeConnection slot) t t fun n u n' u' ↦
      n' = n ∧ (n ≠ -1 → n = 0 ∧ ∃ bs bs',
        u.self = t.self.setInfos slot (handshaken t.self.serverInfos (t.self.infos slot) bs) ∧
        u'.self = t.self.setInfos slot (handshaken t.self.serverInfos (t.self.infos slot) bs')) ∧
      (n = -1 → u'.self = u.self) := by
  unfold initializeConnection
  refine twins_self_bind (twins_syscall_bind fun sent sent' hsent ↦ ?_)
  obtain rfl : sent = sent' := hsent
  generalize ht : t.note sent = t₁
  have hs₁ : t₁.self = t.self := by rw [← ht, Thread.note_self]
  extract_lets count
  split
  · exact twins_pure ⟨rfl, fun h ↦ absurd rfl h, fun _ ↦ rfl⟩
  · refine twins_bind (twins_pollIn fun polled t₂ hs₂ ↦ ?_)
    split
    · exact twins_pure ⟨rfl, fun h ↦ absurd rfl h, fun _ ↦ rfl⟩
    · refine twins_self_bind (twins_syscall_bind fun got got' ⟨hgot, hgot'⟩ ↦ ?_)
      match got, got', hgot, hgot' with
      | .ok bs, .ok bs', hgot, hgot' =>
        have hlen : ¬ bs.val.length ≠ UdtcpInfos.sizeof := not_not.mpr hgot
        have hlen' : ¬ bs'.val.length ≠ UdtcpInfos.sizeof := not_not.mpr hgot'
        refine twins_bind ((twins_writeRecord hgot hgot').mono fun _ u _ u' ⟨hu, hu'⟩ ↦ ?_)
        rw [if_neg hlen, if_neg hlen']
        refine twins_self_bind (twins_update_bind (twins_pure ⟨rfl, fun _ ↦ ⟨rfl, bs.val, bs'.val,
          ?_, ?_⟩, fun h ↦ (by cases h)⟩))
        · rw [Thread.note_self, hs₂, hs₁] at hu
          simp only [hu, UdtcpServer.serverInfos_modifyInfos _ _ hslot, hs₂, hs₁]
          exact UdtcpServer.modifyInfos_modifyInfos _ _ _ _
        · rw [Thread.note_self, hs₂, hs₁] at hu'
          simp only [hu', UdtcpServer.serverInfos_modifyInfos _ _ hslot, hs₂, hs₁]
          exact UdtcpServer.modifyInfos_modifyInfos _ _ _ _

private theorem twins_registerClient (hcb : t'.self.connectCallback = t.self.connectCallback) :
    Twins OtherRecord (registerClient slot) (registerClient slot) t t' fun _ u _ u' ↦ ∃ r r',
      u.self = t.self.enter slot r ∧ u'.self = t'.self.enter slot r' ∧
      UdtcpInfos.SameLink { t.self.infos slot with
        send := t.self.sendAddr slot, id := t.self.countId } r ∧
      UdtcpInfos.SameLink { t'.self.infos slot with
        send := t'.self.sendAddr slot, id := t'.self.countId } r' := by
  intro tr _ u tr' _ u' rest rest' hm hm' halike
  obtain ⟨key, name, tr, r, rfl, hu, hcall, hlink⟩ := exec_registerClient hm
  obtain ⟨key', name', tr', r', rfl, hu', hcall', hlink'⟩ := exec_registerClient hm'
  obtain ⟨⟨-, hfits, hfits'⟩, halike⟩ := halike
  have hrest : Alike OtherRecord rest rest' := by
    rw [hcb] at hcall'
    rcases hcall with ⟨hon, v, rfl⟩ | ⟨hoff, rfl⟩ <;>
      rcases hcall' with ⟨hon', v', rfl⟩ | ⟨hoff', rfl⟩
    · exact halike.2
    · rw [hon] at hoff'
      cases hoff'
    · rw [hoff] at hon'
      cases hon'
    · exact halike
  refine ⟨hrest, r, r', hu, hu', hlink fun text htext ↦ ?_, hlink' fun text htext ↦ ?_⟩
  · subst htext
    exact hfits
  · subst htext
    exact hfits'

/-- Two servers that differ at most in what the peer behind `slot` may decide. -/
structure UdtcpServer.SameBut (slot : Nat) (s s' : UdtcpServer m) : Prop where
  handles : SameHandles (s.infos slot) (s'.infos slot)
  infos : ∀ i, i ≠ slot → s'.infos i = s.infos i
  pollFds : s'.pollFds = s.pollFds
  pollNfds : s'.pollNfds = s.pollNfds
  countId : s'.countId = s.countId

/-- Entering two completed records that come from the same accepted connection. -/
theorem UdtcpServer.sameBut_enter {s : UdtcpServer m} {bs bs' : List UInt8} {r r' : UdtcpInfos}
    (hr : UdtcpInfos.SameLink { handshaken s.serverInfos (s.infos slot) bs with
      send := s.sendAddr slot, id := s.countId } r)
    (hr' : UdtcpInfos.SameLink { handshaken s.serverInfos (s.infos slot) bs' with
      send := s.sendAddr slot, id := s.countId } r') :
    SameBut slot (s.enter slot r) (s.enter slot r') := by
  have hsock : r'.tcpSocket = r.tcpSocket := hr'.tcpSocket.trans hr.tcpSocket.symm
  have hself (r : UdtcpInfos) : (s.enter slot r).infos slot = r := Function.update_self _ _ _
  refine ⟨?_, fun i hi ↦ ?_, ?_, rfl, rfl⟩
  · rw [hself, hself]
    exact {
      id := hr'.id.trans hr.id.symm
      send := hr'.send.trans hr.send.symm
      tcpSocket := hsock
      udpServerSocket := hr'.udpServerSocket.trans hr.udpServerSocket.symm
      udpClientSocket := hr'.udpClientSocket.trans hr.udpClientSocket.symm
      tcpAddr := by rw [hr'.tcpAddr, hr.tcpAddr]; rfl
      udpServerAddr := by rw [hr'.udpServerAddr, hr.udpServerAddr]; rfl
      udpClientAddr := by rw [hr'.udpClientAddr, hr.udpClientAddr]; rfl }
  · exact (Function.update_of_ne hi _ _).trans (Function.update_of_ne hi _ _).symm
  · simp only [UdtcpServer.enter, hsock]

private theorem UdtcpServer.enter_setInfos (s : UdtcpServer m) (slot : Nat) (r r' : UdtcpInfos) :
    (s.setInfos slot r).enter slot r' = s.enter slot r' := by
  simp [UdtcpServer.enter, UdtcpServer.setInfos]

private theorem twins_admitClient (hslot : 0 < slot) :
    Twins OtherRecord (admitClient slot) (admitClient slot) t t fun n u n' u' ↦
      n = 0 → n' = 0 ∧ u.self.SameBut slot u'.self := by
  unfold admitClient
  refine twins_self_bind (twins_bind (twins_udtcpSocketAddOption fun o t₁ hs₁ ↦ ?_))
  split
  · refine twins_self_bind (twins_syscall_bind fun _ _ _ ↦ twins_pure fun h ↦ ?_)
    cases h
  · refine twins_bind ((twins_initializeConnection hslot).mono
      fun n t₂ n' t₂' ⟨hn, hdone, hfailed⟩ ↦ ?_)
    subst hn
    split
    · next hfail =>
      have hsame := hfailed hfail
      refine twins_self_bind ?_
      rw [hsame]
      refine twins_syscall_bind fun _ _ _ ↦ twins_pure fun h ↦ ?_
      cases h
    · next hok =>
      obtain ⟨-, bs, bs', ht₂, ht₂'⟩ := hdone hok
      have hcb : t₂'.self.connectCallback = t₂.self.connectCallback := by
        rw [ht₂, ht₂']
        rfl
      refine twins_bind ((twins_registerClient hcb).mono
        fun _ u _ u' ⟨r, r', hu, hu', hr, hr'⟩ ↦ twins_pure fun _ ↦ ⟨rfl, ?_⟩)
      rw [ht₂, UdtcpServer.infos_setInfos_self] at hr
      rw [ht₂', UdtcpServer.infos_setInfos_self] at hr'
      rw [hu, hu', ht₂, ht₂', UdtcpServer.enter_setInfos, UdtcpServer.enter_setInfos]
      exact UdtcpServer.sameBut_enter hr hr'

/-- **Accepting.** A record that differs gives the peer nothing but what it says of itself. -/
theorem twins_acceptClient (hn : 0 < t.self.pollNfds) :
    Twins OtherRecord acceptClient acceptClient t t fun n u n' u' ↦
      n = 0 → n' = 0 ∧ u.self.SameBut t.self.pollNfds u'.self := by
  unfold acceptClient
  refine twins_self_bind ?_
  split
  · unfold refuseClient
    refine twins_self_bind (twins_syscall_bind fun got got' hgot ↦ ?_)
    obtain rfl : got = got' := hgot
    cases got with
    | error e =>
      refine twins_pure fun h ↦ ?_
      cases h
    | ok a =>
      refine twins_syscall_bind fun _ _ _ ↦ twins_syscall_bind fun _ _ _ ↦ twins_pure fun h ↦ ?_
      cases h
  · refine twins_syscall_bind fun got got' hgot ↦ ?_
    obtain rfl : got = got' := hgot
    cases got with
    | error e =>
      refine twins_update_bind (twins_pure fun h ↦ ?_)
      cases h
    | ok a => exact twins_update_bind (twins_admitClient hn)

end Server

/-! ### The client -/

section Client

namespace Client

variable {t t' : Thread UdtcpClient}

private theorem twins_writeRecord {bs bs' : List UInt8} (hb : bs.length = UdtcpInfos.sizeof)
    (hb' : bs'.length = UdtcpInfos.sizeof) {Q : Unit → Thread UdtcpClient → Unit →
      Thread UdtcpClient → Prop}
    (h : Q () ⟨t.errno, { t.self with serverInfos := t.self.serverInfos.patch 0 bs }⟩ ()
      ⟨t'.errno, { t'.self with serverInfos := t'.self.serverInfos.patch 0 bs' }⟩) :
    Twins OtherRecord (writeRecord bs) (writeRecord bs') t t' Q := by
  have hnone {l : List UInt8} (hl : l.length = UdtcpInfos.sizeof) : l[UdtcpInfos.sizeof]? = none :=
    List.getElem?_eq_none (Nat.le_of_eq hl)
  unfold writeRecord
  rw [hnone hb, hnone hb']
  exact twins_update_bind (twins_pure h)

/-- Both handshakes come to the same result and leave the same client, but for the record. -/
theorem twins_initializeConnection :
    Twins OtherRecord initializeConnection initializeConnection t t fun n u n' u' ↦
      n' = n ∧ ∃ r, u'.self = { u.self with serverInfos := r } := by
  unfold initializeConnection
  refine twins_self_bind (twins_bind (twins_pollIn fun polled t₁ hs₁ ↦ ?_))
  split
  · exact twins_pure ⟨rfl, t₁.self.serverInfos, rfl⟩
  split
  · exact twins_pure ⟨rfl, t₁.self.serverInfos, rfl⟩
  refine twins_syscall_bind fun got got' ⟨hgot, hgot'⟩ ↦ ?_
  match got, got', hgot, hgot' with
  | .ok bs, .ok bs', hgot, hgot' =>
    have hfull {l : List UInt8} (hl : l.length = UdtcpInfos.sizeof) :
        ¬ l.length = 0 ∧ ¬ l.length ≠ UdtcpInfos.sizeof := by
      rw [hl]
      decide
    obtain ⟨hzero, hlen⟩ := hfull (l := bs.val) hgot
    obtain ⟨hzero', hlen'⟩ := hfull (l := bs'.val) hgot'
    refine twins_bind (twins_writeRecord hgot hgot' ?_)
    rw [if_neg hzero, if_neg hzero', if_neg hlen, if_neg hlen']
    refine twins_self_bind (twins_syscall_bind fun sent sent' hsent ↦ ?_)
    obtain rfl : sent = sent' := hsent
    cases sent with
    | error e => exact twins_pure ⟨rfl, _, rfl⟩
    | ok n =>
      refine twins_ite (fun _ ↦ ?_) fun _ ↦ ?_
      · exact twins_pure ⟨rfl, _, rfl⟩
      · exact twins_pure ⟨rfl, _, rfl⟩

private theorem settled_prepares (c : SysCall) (r : Except Errno c.Result)
    (hc : c.prepares = true) : Settled OtherRecord ⟨.sys c, r⟩ :=
  settled_of_ne fun fd len h ↦ by
    cases h
    cases hc

private theorem twins_closeTcpSocket
    {Q : Unit → Thread UdtcpClient → Unit → Thread UdtcpClient → Prop}
    (hfd : t'.self.clientInfos.tcpSocket = t.self.clientInfos.tcpSocket)
    (h : ∀ u u', Q () u () u') : Twins OtherRecord closeTcpSocket closeTcpSocket t t' Q := by
  unfold closeTcpSocket
  refine twins_self_bind ?_
  rw [hfd]
  refine twins_syscall_bind fun r r' _ ↦ twins_self_bind ?_
  rw [Thread.note_self, Thread.note_self, hfd]
  exact twins_syscall_bind fun _ _ _ ↦ twins_pure (h _ _)

/-- What a connection uses locally is filled in after the exchange. -/
theorem twins_adoptServer {addr : UInt32} {r : UdtcpInfos}
    (hr : t'.self = { t.self with serverInfos := r }) :
    Twins OtherRecord (adoptServer addr) (adoptServer addr) t t' fun _ u _ u' ↦
      SameHandles u.self.serverInfos u'.self.serverInfos := by
  unfold adoptServer
  refine twins_update_bind (twins_bind (twins_zoom ?_))
  refine twins_udtcpSetStringInfos.mono fun _ u _ u' ⟨hu, hu'⟩ ↦ twins_self_bind ?_
  have hsame : SameHandles u.self u'.self := by
    dsimp only at hu hu'
    rw [hr] at hu'
    exact {
      id := hu'.id.trans hu.id.symm
      send := hu'.send.trans hu.send.symm
      tcpSocket := hu'.tcpSocket.trans hu.tcpSocket.symm
      udpServerSocket := hu'.udpServerSocket.trans hu.udpServerSocket.symm
      udpClientSocket := hu'.udpClientSocket.trans hu.udpClientSocket.symm
      tcpAddr := by rw [hu'.tcpAddr, hu.tcpAddr]
      udpServerAddr := by rw [hu'.udpServerAddr, hu.udpServerAddr]
      udpClientAddr := by rw [hu'.udpClientAddr, hu.udpClientAddr] }
  have hcb : t'.self.connectCallback = t.self.connectCallback := by rw [hr]
  dsimp only
  rw [hcb]
  split
  · exact twins_issue hsame
  · exact twins_pure hsame

end Client

/-- **Connecting.** A record that differs gives the server nothing but what it says of itself. -/
theorem twins_udtcpConnectClient {hostname : List UInt8} {tcpPort : UInt16} {timeout : Int}
    {t : Thread UdtcpClient} :
    Twins OtherRecord (udtcpConnectClient hostname tcpPort timeout)
      (udtcpConnectClient hostname tcpPort timeout) t t fun n u n' u' ↦
        n = .success → n' = .success ∧ SameHandles u.self.serverInfos u'.self.serverInfos := by
  have hgiveUp {result : UdtcpConnect} (hne : result ≠ .success) {u u' : Thread UdtcpClient}
      (hfd : u'.self.clientInfos.tcpSocket = u.self.clientInfos.tcpSocket) :
      Twins OtherRecord (do Client.closeTcpSocket; return result)
        (do Client.closeTcpSocket; return result) u u' fun n v n' v' ↦
          n = .success → n' = .success ∧ SameHandles v.self.serverInfos v'.self.serverInfos :=
    twins_bind (Client.twins_closeTcpSocket hfd fun _ _ ↦ twins_pure fun h ↦ absurd h hne)
  unfold udtcpConnectClient
  refine twins_bind (twins_self (Client.emits_createTcpSocket Client.settled_prepares)
    fun _ o t₁ _ ↦ ?_)
  split
  · exact hgiveUp (by nofun) rfl
  refine twins_bind (twins_perform fun host host' hhost ↦ ?_)
  obtain rfl : host = host' := hhost.1 _ _ _ rfl rfl
  cases host with
  | none =>
    refine twins_pure fun h ↦ ?_
    cases h
  | some host =>
    refine twins_update_bind (twins_bind (twins_self (Client.emits_connectSocket
      Client.settled_prepares _ _ fun _ _ ↦ settled_of_ne nofun) fun tr o t₂ hm ↦ ?_))
    cases o with
    | some result => exact twins_pure fun h ↦ ⟨h, .refl _⟩
    | none =>
      refine twins_bind (Client.twins_initializeConnection.mono fun n u n' u' ⟨hn, r, hu⟩ ↦ ?_)
      subst hn
      cases n' with
      | success =>
        refine twins_bind ((Client.twins_adoptServer hu).mono fun _ v _ v' hv ↦ ?_)
        exact twins_pure fun _ ↦ ⟨rfl, hv⟩
      | error => exact hgiveUp (by nofun) (by rw [hu])
      | timeout => exact hgiveUp (by nofun) (by rw [hu])
      | tooMany => exact hgiveUp (by nofun) (by rw [hu])

end Client

/-! ### No local handle comes from the peer -/

/-- **Nothing the peer writes becomes a local handle.** Of two runs from one state that are
answered alike but for the record of the peer, received whole, the second succeeds where the first
does; what the connection uses locally and the rest of the table come out the same. A created
server has its own two entries, so `poll_nfds` is not zero. -/
theorem sameHandles_of_otherRecord :
    (∀ (m : Nat) (t u u' : Thread (UdtcpServer m)) (tr tr' : Trace posix) (n : Int),
      0 < t.self.pollNfds → Exec acceptClient t tr 0 u → Exec acceptClient t tr' n u' →
      Alike OtherRecord tr tr' → n = 0 ∧ u.self.SameBut t.self.pollNfds u'.self) ∧
    (∀ (hostname : List UInt8) (tcpPort : UInt16) (timeout : Int) (t u u' : Thread UdtcpClient)
      (tr tr' : Trace posix) (result : UdtcpConnect),
      Exec (udtcpConnectClient hostname tcpPort timeout) t tr .success u →
      Exec (udtcpConnectClient hostname tcpPort timeout) t tr' result u' →
      Alike OtherRecord tr tr' → result = .success ∧
        SameHandles u.self.serverInfos u'.self.serverInfos) := by
  constructor
  · intro m t u u' tr tr' n hpos h h' halike
    have hnil : Alike OtherRecord (tr ++ []) (tr' ++ []) := by
      rw [List.append_nil, List.append_nil]
      exact halike
    exact (twins_acceptClient hpos _ _ _ _ _ _ _ _ h h' hnil).2 rfl
  · intro hostname tcpPort timeout t u u' tr tr' result h h' halike
    have hnil : Alike OtherRecord (tr ++ []) (tr' ++ []) := by
      rw [List.append_nil, List.append_nil]
      exact halike
    exact (twins_udtcpConnectClient _ _ _ _ _ _ _ _ h h' hnil).2 rfl

private theorem otherRecord_refl {c : Call} {r : c.Reply} (h : SameReply c r r)
    (hfits : AnswerFits c r) : OtherRecord ⟨c, r⟩ ⟨c, r⟩ := by
  refine ⟨?_, hfits, hfits⟩
  rintro _ _ _ ⟨⟩ ⟨⟩
  exact h

private theorem otherRecord_record {fd : Fd} {bs bs' : List UInt8}
    (hbs : bs.length = UdtcpInfos.sizeof) (hbs' : bs'.length = UdtcpInfos.sizeof) :
    OtherRecord (recordReply fd bs hbs) (recordReply fd bs' hbs') := by
  refine ⟨?_, trivial, trivial⟩
  rintro _ _ _ ⟨⟩ ⟨⟩
  exact ⟨hbs, hbs'⟩

private theorem otherRecord_gethostbyaddr (key key' : List UInt8) :
    OtherRecord ⟨.gethostbyaddr key, none⟩ ⟨.gethostbyaddr key', none⟩ := by
  refine ⟨?_, trivial, trivial⟩
  rintro _ _ _ ⟨⟩ ⟨⟩
  exact rfl

private theorem otherRecord_connect (slot : Nat) (r r' : UdtcpInfos) :
    OtherRecord ⟨.callback (.connect slot r), ()⟩ ⟨.callback (.connect slot r'), ()⟩ := by
  refine ⟨?_, trivial, trivial⟩
  rintro _ _ _ ⟨⟩ ⟨⟩
  exact rfl

/-- Two runs of a server and two of a client with records of zeros and of ones. -/
theorem sameHandles_of_ones : (∃ u u' : Thread (UdtcpServer 1), u.self.SameBut 2 u'.self) ∧
    ∃ u u' : Thread UdtcpClient, SameHandles u.self.serverInfos u'.self.serverInfos := by
  have hzeros : (List.replicate UdtcpInfos.sizeof (0 : UInt8)).length = UdtcpInfos.sizeof :=
    List.length_replicate ..
  have hones : (List.replicate UdtcpInfos.sizeof (1 : UInt8)).length = UdtcpInfos.sizeof :=
    List.length_replicate ..
  constructor
  · obtain ⟨_, t, hrun, -⟩ :=
      exists_serverRun (m := 1) Watch.AnyPass ⟨3, by decide⟩ ⟨4, by decide⟩ ⟨5, by decide⟩
    have hnfds : t.self.pollNfds = 2 := hrun.table.pollNfds
    have hpos : 0 < t.self.pollNfds := by
      rw [hnfds]
      decide
    have hfree : t.self.pollNfds < pollTableSize 1 := by
      rw [hnfds]
      decide
    obtain ⟨tr, n, u, h, rfl, -, key, r, rfl⟩ :=
      may_acceptClient hpos hfree ⟨6, by decide⟩ .zero _ hzeros
    obtain ⟨tr', n', u', h', -, -, key', r', rfl⟩ :=
      may_acceptClient hpos hfree ⟨6, by decide⟩ .zero _ hones
    refine ⟨u, u', hnfds ▸ (sameHandles_of_otherRecord.1 1 t u u' _ _ n' hpos h h' ?_).2⟩
    refine ⟨otherRecord_refl rfl trivial, otherRecord_refl rfl trivial,
      otherRecord_refl rfl trivial,
      otherRecord_refl rfl trivial, otherRecord_refl rfl trivial, otherRecord_record hzeros hones,
      otherRecord_gethostbyaddr key key', ?_⟩
    cases t.self.connectCallback with
    | false => trivial
    | true => exact ⟨otherRecord_connect _ _ _, trivial⟩
  · obtain ⟨tr, result, u, h, rfl, key, r, rfl, -⟩ := may_udtcpConnectClient
      ⟨.other 0, .zero 0⟩ ⟨3, by decide⟩ 0 hzeros
    obtain ⟨tr', result', u', h', -, key', r', rfl, -⟩ := may_udtcpConnectClient
      ⟨.other 0, .zero 0⟩ ⟨3, by decide⟩ 0 hones
    refine ⟨u, u', (sameHandles_of_otherRecord.2 _ _ _ _ u u' _ _ result' h h' ?_).2⟩
    exact ⟨otherRecord_refl rfl trivial, otherRecord_refl rfl trivial, otherRecord_refl rfl trivial,
      otherRecord_refl rfl trivial, otherRecord_refl rfl trivial, otherRecord_refl rfl trivial,
      otherRecord_refl rfl trivial, otherRecord_refl rfl trivial, otherRecord_refl rfl trivial,
      otherRecord_record hzeros hones, otherRecord_refl rfl trivial,
      otherRecord_gethostbyaddr key key', trivial⟩

end Udtcp
