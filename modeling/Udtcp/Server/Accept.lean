import Udtcp.Posix.Observe
import Udtcp.Receive.Cases
import Udtcp.Server.Poll

/-!
# What accepting a client can do

`accept_client` and its parts, `server_poll.c:35–195`, taken apart once: the calls each
exit makes and the part of the server it changes.
-/

namespace Udtcp

open Interaction Routine

namespace UdtcpServer

variable {m : Nat}

/-- Two servers that differ at most in the records from `slot` on. -/
structure Kept (slot : Nat) (s s' : UdtcpServer m) : Prop where
  addr : s'.addr = s.addr
  infos : ∀ i < slot, s'.infos i = s.infos i
  pollFds : s'.pollFds = s.pollFds
  pollNfds : s'.pollNfds = s.pollNfds
  connectCallback : s'.connectCallback = s.connectCallback
  disconnectCallback : s'.disconnectCallback = s.disconnectCallback
  receiveTcpCallback : s'.receiveTcpCallback = s.receiveTcpCallback
  receiveUdpCallback : s'.receiveUdpCallback = s.receiveUdpCallback
  countId : s'.countId = s.countId
  buffer : s'.buffer = s.buffer

/-- Nothing has changed. -/
theorem Kept.refl (slot : Nat) (s : UdtcpServer m) : Kept slot s s :=
  ⟨rfl, fun _ _ ↦ rfl, rfl, rfl, rfl, rfl, rfl, rfl, rfl, rfl⟩

/-- What is kept step by step. -/
theorem Kept.trans {slot : Nat} {s s' s'' : UdtcpServer m} (h : Kept slot s s')
    (h' : Kept slot s' s'') : Kept slot s s'' where
  addr := h'.addr.trans h.addr
  infos i hi := (h'.infos i hi).trans (h.infos i hi)
  pollFds := h'.pollFds.trans h.pollFds
  pollNfds := h'.pollNfds.trans h.pollNfds
  connectCallback := h'.connectCallback.trans h.connectCallback
  disconnectCallback := h'.disconnectCallback.trans h.disconnectCallback
  receiveTcpCallback := h'.receiveTcpCallback.trans h.receiveTcpCallback
  receiveUdpCallback := h'.receiveUdpCallback.trans h.receiveUdpCallback
  countId := h'.countId.trans h.countId
  buffer := h'.buffer.trans h.buffer

private theorem kept_setInfos {slot i : Nat} (s : UdtcpServer m) (r : UdtcpInfos) (h : slot ≤ i) :
    Kept slot s (s.setInfos i r) := by
  refine ⟨rfl, fun j hj ↦ ?_, rfl, rfl, rfl, rfl, rfl, rfl, rfl, rfl⟩
  exact Function.update_of_ne (by omega) _ _

/-- A change of a record from `slot` on keeps what is before it. -/
theorem kept_modifyInfos {slot i : Nat} (s : UdtcpServer m) (f : UdtcpInfos → UdtcpInfos)
    (h : slot ≤ i) : Kept slot s (s.modifyInfos i f) := kept_setInfos s _ h

/-- A record that was set. -/
@[simp] theorem infos_setInfos_self (s : UdtcpServer m) (slot : Nat) (r : UdtcpInfos) :
    (s.setInfos slot r).infos slot = r := Function.update_self _ _ _

/-- A record that was changed. -/
@[simp] theorem infos_modifyInfos_self (s : UdtcpServer m) (slot : Nat)
    (f : UdtcpInfos → UdtcpInfos) : (s.modifyInfos slot f).infos slot = f (s.infos slot) :=
  Function.update_self _ _ _

/-- Another record than the one that was changed. -/
theorem infos_modifyInfos_of_ne (s : UdtcpServer m) {slot i : Nat} (f : UdtcpInfos → UdtcpInfos)
    (h : i ≠ slot) : (s.modifyInfos slot f).infos i = s.infos i :=
  Function.update_of_ne h _ _

/-- Two changes of one record. -/
theorem modifyInfos_modifyInfos (s : UdtcpServer m) (slot : Nat) (f g : UdtcpInfos → UdtcpInfos) :
    (s.modifyInfos slot f).modifyInfos slot g = s.setInfos slot (g (f (s.infos slot))) := by
  simp [modifyInfos, setInfos]

/-- A change of another record leaves `server_infos` alone. -/
theorem serverInfos_modifyInfos (s : UdtcpServer m) {slot : Nat} (f : UdtcpInfos → UdtcpInfos)
    (h : 0 < slot) : (s.modifyInfos slot f).serverInfos = s.serverInfos :=
  s.infos_modifyInfos_of_ne f (by omega)

end UdtcpServer

section

variable {τ : Type} {t t' : Thread τ} {tr : Trace posix} {n : Int}

/-- Setting a socket option changes nothing here; its calls are two `fcntl`s at most. -/
theorem exec_udtcpSocketAddOption {fd : Fd} {option : Nat}
    (h : Exec (udtcpSocketAddOption fd option) t tr n t') :
    t'.self = t.self ∧ (n = -1 ∨ n = 0) ∧
      ∀ e ∈ tr, (∃ fd, e.call = .sys (.getfl fd)) ∨ ∃ fd flags,
        e.call = .sys (.setfl fd flags) := by
  obtain ⟨r, rest, rfl, hset⟩ := exec_syscall_bind.mp h
  cases r with
  | error e =>
    obtain ⟨rfl, rfl, rfl⟩ := exec_pure.mp hset
    exact ⟨rfl, .inl rfl, by simp⟩
  | ok flags =>
    obtain ⟨r, rest, rfl, hret⟩ := exec_syscall_bind.mp hset
    have hend : rest = [] ∧ (n = -1 ∨ n = 0) ∧ t'.self = t.self := by
      cases r with
      | error e =>
        obtain ⟨rfl, rfl, rfl⟩ := exec_pure.mp hret
        exact ⟨rfl, .inl rfl, rfl⟩
      | ok u =>
        obtain ⟨rfl, rfl, rfl⟩ := exec_pure.mp hret
        exact ⟨rfl, .inr rfl, rfl⟩
    obtain ⟨rfl, hn, hself⟩ := hend
    exact ⟨hself, hn, by simp⟩

end

section

variable {m : Nat} {t t' : Thread (UdtcpServer m)} {tr : Trace posix} {n : Int} {slot : Nat}

/-- Receiving over a record changes it and what lies behind it. -/
theorem exec_writeRecord {bs : List UInt8} {u : Unit}
    (h : Exec (writeRecord slot bs) t tr u t') :
    t.self.Kept slot t'.self ∧ t'.self.infos slot = (t.self.infos slot).patch 0 bs ∧
      (∀ e ∈ tr, (∃ a, e.call = .loadSend a) ∨ ∃ a v, e.call = .storeSend a v) ∧
      (bs.length ≤ UdtcpInfos.sizeof →
        tr = [] ∧ t'.self = t.self.modifyInfos slot (·.patch 0 bs)) := by
  have hhere := exec_update_bind.mp h
  have hkept := t.self.kept_modifyInfos (·.patch 0 bs) (Nat.le_refl slot)
  have hself := t.self.infos_modifyInfos_self slot (·.patch 0 bs)
  cases hb : bs[UdtcpInfos.sizeof]? with
  | none =>
    rw [hb] at hhere
    obtain ⟨rfl, -, rfl⟩ := exec_pure.mp hhere
    exact ⟨hkept, hself, by simp, fun _ ↦ ⟨rfl, rfl⟩⟩
  | some b =>
    have hlong : ¬ bs.length ≤ UdtcpInfos.sizeof := by
      intro hle
      rw [List.getElem?_eq_none hle] at hb
      cases hb
    simp only [hb, exec_ite] at hhere
    split at hhere
    · obtain ⟨rfl, rfl⟩ := exec_update.mp hhere
      have hnext := (t.self.modifyInfos slot (·.patch 0 bs)).kept_modifyInfos (·.patch 0 [b])
        (Nat.le_succ slot)
      refine ⟨hkept.trans hnext, ?_, by simp, fun hle ↦ absurd hle hlong⟩
      exact ((t.self.modifyInfos slot (·.patch 0 bs)).infos_modifyInfos_of_ne (·.patch 0 [b])
        (Nat.ne_of_lt (Nat.lt_succ_self slot))).trans hself
    · obtain ⟨v, _, rfl, hstore⟩ := exec_request_bind.mp (exec_self_bind.mp hhere)
      obtain ⟨r, rfl, rfl⟩ := exec_issue.mp hstore
      exact ⟨hkept, hself, by simp, fun hle ↦ absurd hle hlong⟩

/-- The record of a client after a completed handshake: what the peer sent, with the fields the
server fills in. -/
def handshaken (server save : UdtcpInfos) (bs : List UInt8) : UdtcpInfos :=
  let r := save.patch 0 bs
  { r with
    tcpAddr := { r.tcpAddr with sAddr := save.tcpAddr.sAddr }
    udpServerAddr := { r.udpServerAddr with sAddr := save.tcpAddr.sAddr }
    udpClientAddr := { r.udpClientAddr with sAddr := save.tcpAddr.sAddr }
    tcpSocket := save.tcpSocket
    udpServerSocket := server.udpClientSocket
    udpClientSocket := server.udpServerSocket }

/-- **The handshake.** It ends at the `send`, at the `poll` or at the `recv`; only a `recv` of
exactly one record completes it. -/
theorem exec_initializeConnection (h : Exec (initializeConnection slot) t tr n t') :
    ∃ sent rest, tr = ⟨.sys (.send (t.self.infos slot).tcpSocket t.self.serverInfos.encode),
        sent⟩ :: rest ∧
      ((rest = [] ∧ n = -1 ∧ t'.self = t.self) ∨
      ∃ polled rest', (∃ k, sent = .ok k ∧ k.val = UdtcpInfos.sizeof) ∧
        rest = ⟨.sys (.poll [⟨(t.self.infos slot).tcpSocket, POLLIN, 0⟩] (-1)), polled⟩ :: rest' ∧
        ((rest' = [] ∧ n = -1 ∧ t'.self = t.self) ∨
        ∃ got rest'', 0 < pollCount polled ∧
          rest' = ⟨.sys (.recv (t.self.infos slot).tcpSocket .record (UdtcpInfos.sizeof + 1)),
            got⟩ :: rest'' ∧
          ((∃ e, got = .error e ∧ rest'' = [] ∧ n = -1 ∧ t'.self = t.self) ∨
          (∃ bs t₁, got = .ok bs ∧ bs.val.length ≠ UdtcpInfos.sizeof ∧ n = -1 ∧
            t₁.self = t.self ∧ Exec (writeRecord slot bs.val) t₁ rest'' () t') ∨
          (∃ bs, got = .ok bs ∧ bs.val.length = UdtcpInfos.sizeof ∧ rest'' = [] ∧ n = 0 ∧
            (0 < slot → t'.self = t.self.setInfos slot
              (handshaken t.self.serverInfos (t.self.infos slot) bs.val)))))) := by
  unfold initializeConnection at h
  rw [exec_self_bind, exec_syscall_bind] at h
  obtain ⟨sent, rest, rfl, hsend⟩ := h
  refine ⟨sent, rest, rfl, ?_⟩
  cases sent with
  | error e =>
    rw [exec_ite, if_pos (by simp)] at hsend
    obtain ⟨rfl, rfl, rfl⟩ := exec_pure.mp hsend
    exact .inl ⟨rfl, rfl, rfl⟩
  | ok k =>
    by_cases hk : k.val = UdtcpInfos.sizeof
    · rw [exec_ite, if_neg (by simpa using hk), exec_bind] at hsend
      obtain ⟨_, c, t₁, rest', rfl, hpoll, hafter⟩ := hsend
      obtain ⟨polled, rfl, rfl, ht₁⟩ := exec_pollIn.mp hpoll
      have hs₁ : t₁.self = t.self := by rw [ht₁]; exact Thread.note_self _ _
      refine .inr ⟨polled, rest', ⟨k, rfl, hk⟩, rfl, ?_⟩
      rw [exec_ite] at hafter
      split at hafter
      · obtain ⟨rfl, rfl, rfl⟩ := exec_pure.mp hafter
        exact .inl ⟨rfl, rfl, hs₁⟩
      · next hready =>
        rw [exec_self_bind, hs₁] at hafter
        obtain ⟨got, rest'', rfl, hgot⟩ := exec_syscall_bind.mp hafter
        refine .inr ⟨got, rest'', by omega, rfl, ?_⟩
        cases got with
        | error e =>
          obtain ⟨rfl, rfl, rfl⟩ := exec_pure.mp hgot
          exact .inl ⟨e, rfl, rfl, rfl, hs₁⟩
        | ok bs =>
          obtain ⟨tr₁, u, t₂, tr₂, rfl, hw, hend⟩ := exec_bind.mp hgot
          apply Or.inr
          rw [exec_ite] at hend
          split at hend
          · next hlen =>
            obtain ⟨rfl, rfl, rfl⟩ := exec_pure.mp hend
            rw [List.append_nil]
            exact .inl ⟨bs, t₁, rfl, hlen, rfl, hs₁, hw⟩
          · next hlen =>
            have hlen : bs.val.length = UdtcpInfos.sizeof := by simpa using hlen
            obtain ⟨-, -, -, hshort⟩ := exec_writeRecord hw
            obtain ⟨rfl, hw₁⟩ := hshort (Nat.le_of_eq hlen)
            rw [exec_self_bind, exec_update_bind] at hend
            obtain ⟨rfl, rfl, rfl⟩ := exec_pure.mp hend
            refine .inr ⟨bs, rfl, hlen, rfl, rfl, fun hslot ↦ ?_⟩
            have hw₂ : t₂.self = t.self.modifyInfos slot (·.patch 0 bs.val) := by
              rw [hw₁, Thread.note_self, hs₁]
            simp only [hw₂, UdtcpServer.serverInfos_modifyInfos _ _ hslot]
            exact UdtcpServer.modifyInfos_modifyInfos _ _ _ _
    · rw [exec_ite, if_pos (by simpa using hk)] at hsend
      obtain ⟨rfl, rfl, rfl⟩ := exec_pure.mp hsend
      exact .inl ⟨rfl, rfl, rfl⟩

/-- The server after record `r` was entered at `slot`. -/
def UdtcpServer.enter (s : UdtcpServer m) (slot : Nat) (r : UdtcpInfos) : UdtcpServer m :=
  { s with
    infos := Function.update s.infos slot r
    pollFds := Function.update s.pollFds slot ⟨r.tcpSocket, POLLIN, (s.pollFds slot).revents⟩
    pollNfds := s.pollNfds + 1
    countId := s.countId + 1 }

/-- **Entering a client.** One reverse lookup and the callback, if there is one; the record gets
the next id and, where the name fits, keeps its link. -/
theorem exec_registerClient {u : Unit} (h : Exec (registerClient slot) t tr u t') :
    ∃ key name rest r, tr = ⟨.gethostbyaddr key, name⟩ :: rest ∧ t'.self = t.self.enter slot r ∧
      ((t.self.connectCallback = true ∧ ∃ v, rest = [⟨.callback (.connect slot r), v⟩]) ∨
        (t.self.connectCallback = false ∧ rest = [])) ∧
      ((∀ text, name = some text → NameFits text) →
        UdtcpInfos.SameLink { t.self.infos slot with
          send := t.self.sendAddr slot, id := t.self.countId } r) := by
  unfold registerClient at h
  rw [exec_self_bind, exec_update_bind] at h
  obtain ⟨tr₁, _, t₁, tr₂, rfl, htext, hrest⟩ := exec_bind.mp h
  obtain ⟨w, hw, rfl⟩ := exec_onPart.mp htext
  obtain ⟨name, rfl, hlink⟩ := exec_udtcpSetStringInfos hw
  rw [exec_update_bind, exec_update_bind, exec_self_bind] at hrest
  let r : UdtcpInfos := { w.self with tcpPort := htons w.self.tcpAddr.sinPort }
  have hlink' (hname : ∀ text, name = some text → NameFits text) : UdtcpInfos.SameLink
      { t.self.infos slot with send := t.self.sendAddr slot, id := t.self.countId } r := by
    have hl := hlink hname
    simp only [UdtcpServer.infos_modifyInfos_self] at hl
    exact ⟨hl.id, hl.tcpSocket, hl.udpServerSocket, hl.udpClientSocket, hl.tcpAddr,
      hl.udpServerAddr, hl.udpClientAddr, hl.send⟩
  dsimp only at hrest
  generalize hs₁ : UdtcpServer.modifyPollFd _ slot _ = s₁ at hrest
  have henter : { s₁ with pollNfds := s₁.pollNfds + 1, countId := s₁.countId + 1 } =
      t.self.enter slot r := by
    rw [← hs₁]
    simp [UdtcpServer.modifyPollFd, UdtcpServer.modifyInfos, UdtcpServer.setInfos,
      UdtcpServer.enter, r]
  have hr : s₁.infos slot = r := by
    rw [← hs₁]
    simp [UdtcpServer.modifyPollFd, r]
  have hcallback : s₁.connectCallback = t.self.connectCallback := by
    rw [← hs₁]
    rfl
  cases hcb : s₁.connectCallback with
  | false =>
    rw [hcb, if_neg (by decide)] at hrest
    obtain ⟨rfl, rfl⟩ := exec_update.mp hrest
    exact ⟨_, name, [], r, rfl, henter, .inr ⟨hcallback ▸ hcb, rfl⟩, hlink'⟩
  | true =>
    rw [hcb, if_pos rfl] at hrest
    obtain ⟨v, _, rfl, hupd⟩ := exec_issue_bind.mp hrest
    obtain ⟨rfl, rfl⟩ := exec_update.mp hupd
    rw [hr]
    exact ⟨_, name, _, r, rfl, henter, .inl ⟨hcallback ▸ hcb, v, rfl⟩, hlink'⟩

/-- Admitting a client: the descriptor is made non-blocking, the handshake runs, the client is
entered. The two failures close what then stands in the record. -/
theorem exec_admitClient (h : Exec (admitClient slot) t tr n t') :
    ∃ tr₁ o t₁ rest, tr = tr₁ ++ rest ∧
      Exec (udtcpSocketAddOption (t.self.infos slot).tcpSocket O_NONBLOCK) t tr₁ o t₁ ∧
      ((o = -1 ∧ n = -1 ∧ t'.self = t.self ∧
        ∃ r, rest = [⟨.sys (.close (t.self.infos slot).tcpSocket), r⟩]) ∨
      (o = 0 ∧ ∃ tr₂ k t₂ tr₃, rest = tr₂ ++ tr₃ ∧ Exec (initializeConnection slot) t₁ tr₂ k t₂ ∧
        ((k = -1 ∧ n = -1 ∧ t'.self = t₂.self ∧
          ∃ r, tr₃ = [⟨.sys (.close (t₂.self.infos slot).tcpSocket), r⟩]) ∨
        (k ≠ -1 ∧ n = 0 ∧ Exec (registerClient slot) t₂ tr₃ () t')))) := by
  unfold admitClient at h
  rw [exec_self_bind] at h
  obtain ⟨tr₁, o, t₁, rest, rfl, hopt, hrest⟩ := exec_bind.mp h
  obtain ⟨hs₁, ho, -⟩ := exec_udtcpSocketAddOption hopt
  refine ⟨tr₁, o, t₁, rest, rfl, hopt, ?_⟩
  rw [exec_ite] at hrest
  split at hrest
  · next hfail =>
    obtain ⟨r, _, rfl, hret⟩ := exec_syscall_bind.mp (exec_self_bind.mp hrest)
    obtain ⟨rfl, rfl, rfl⟩ := exec_pure.mp hret
    rw [← hs₁]
    exact .inl ⟨hfail, rfl, Thread.note_self _ _, r, rfl⟩
  · next hok =>
    obtain ⟨tr₂, k, t₂, tr₃, rfl, hinit, hend⟩ := exec_bind.mp hrest
    refine .inr ⟨ho.resolve_left hok, tr₂, k, t₂, tr₃, rfl, hinit, ?_⟩
    rw [exec_ite] at hend
    split at hend
    · next hfail =>
      obtain ⟨r, _, rfl, hret⟩ := exec_syscall_bind.mp (exec_self_bind.mp hend)
      obtain ⟨rfl, rfl, rfl⟩ := exec_pure.mp hret
      exact .inl ⟨hfail, rfl, Thread.note_self _ _, r, rfl⟩
    · next hdone =>
      obtain ⟨tr₄, _, t₄, tr₅, rfl, hreg, hret⟩ := exec_bind.mp hend
      obtain ⟨rfl, rfl, rfl⟩ := exec_pure.mp hret
      rw [List.append_nil]
      exact .inr ⟨hdone, rfl, hreg⟩

/-- **Accepting.** With a full table a connection is taken only to be dropped; otherwise it is
put into the record behind the last client and admitted from there. -/
theorem exec_acceptClient (h : Exec acceptClient t tr n t') :
    (∃ e, tr = [⟨.sys (.accept t.self.serverInfos.tcpSocket), .error e⟩] ∧ n = -1 ∧
      t.self.Kept t.self.pollNfds t'.self) ∨
    ∃ fd addr rest, tr = ⟨.sys (.accept t.self.serverInfos.tcpSocket), .ok (fd, addr)⟩ :: rest ∧
      ((pollTableSize m ≤ t.self.pollNfds ∧ n = -1 ∧ t'.self = t.self ∧
        ∃ r r', rest = [⟨.sys (.send fd.val [0]), r⟩, ⟨.sys (.close fd.val), r'⟩]) ∨
      (t.self.pollNfds < pollTableSize m ∧ ∃ t₁,
        t₁.self = t.self.modifyInfos t.self.pollNfds (fun r ↦
          { r with tcpAddr := addr, tcpSocket := fd.val }) ∧
        Exec (admitClient t.self.pollNfds) t₁ rest n t')) := by
  unfold acceptClient at h
  rw [exec_self_bind, exec_ite] at h
  split at h
  · next hfull =>
    unfold refuseClient at h
    rw [exec_self_bind] at h
    obtain ⟨r, rest, rfl, hrest⟩ := exec_syscall_bind.mp h
    cases r with
    | error e =>
      obtain ⟨rfl, rfl, rfl⟩ := exec_pure.mp hrest
      exact .inl ⟨e, rfl, rfl, .refl _ _⟩
    | ok a =>
      obtain ⟨fd, addr⟩ := a
      obtain ⟨r, _, rfl, hclose⟩ := exec_syscall_bind.mp hrest
      obtain ⟨r', _, rfl, hret⟩ := exec_syscall_bind.mp hclose
      obtain ⟨rfl, rfl, rfl⟩ := exec_pure.mp hret
      refine .inr ⟨fd, addr, _, rfl, .inl ⟨hfull, rfl, ?_, r, r', rfl⟩⟩
      simp only [Thread.note_self]
  · next hfree =>
    obtain ⟨r, rest, rfl, hrest⟩ := exec_syscall_bind.mp h
    cases r with
    | error e =>
      have hret := exec_update_bind.mp hrest
      obtain ⟨rfl, rfl, rfl⟩ := exec_pure.mp hret
      refine .inl ⟨e, rfl, rfl, ?_⟩
      simp only [Thread.note_self]
      exact t.self.kept_modifyInfos _ (Nat.le_refl _)
    | ok a =>
      obtain ⟨fd, addr⟩ := a
      dsimp only at hrest
      refine .inr ⟨fd, addr, rest, rfl, .inr ⟨Nat.not_le.mp hfree, _, ?_,
        exec_update_bind.mp hrest⟩⟩
      simp only [Thread.note_self]

/-! ### What is seen of it -/

/-- Adding an option shows nothing. -/
theorem sightings_addOption {τ : Type} {t t' : Thread τ} {fd : Fd} {option : Nat}
    (h : Exec (udtcpSocketAddOption fd option) t tr n t') : sightings tr = [] := by
  obtain ⟨-, -, hcalls⟩ := exec_udtcpSocketAddOption h
  apply sightings_eq_nil
  rintro ⟨c, r⟩ he
  obtain ⟨fd, rfl⟩ | ⟨fd, flags, rfl⟩ := hcalls _ he <;> cases r <;> rfl

private theorem sightings_writeRecord {bs : List UInt8} {u : Unit}
    (h : Exec (writeRecord slot bs) t tr u t') : sightings tr = [] := by
  obtain ⟨-, -, hcalls, -⟩ := exec_writeRecord h
  apply sightings_eq_nil
  rintro ⟨c, r⟩ he
  obtain ⟨a, rfl⟩ | ⟨a, v, rfl⟩ := hcalls _ he <;> rfl

/-- A handshake either sees no record and leaves the server alone, or sees one of a wrong length,
written over the slot, or completes. -/
theorem sightings_initializeConnection (h : Exec (initializeConnection slot) t tr n t') :
    (n = -1 ∧ sightings tr = [] ∧ t'.self = t.self) ∨
    ∃ bs, sightings tr = [.record (t.self.infos slot).tcpSocket bs] ∧
      ((n = -1 ∧ bs.length ≠ UdtcpInfos.sizeof ∧ t.self.Kept slot t'.self ∧
        t'.self.infos slot = (t.self.infos slot).patch 0 bs) ∨
      (n = 0 ∧ bs.length = UdtcpInfos.sizeof ∧ (0 < slot → t'.self = t.self.setInfos slot
        (handshaken t.self.serverInfos (t.self.infos slot) bs)))) := by
  obtain ⟨sent, rest, rfl, hsend⟩ := exec_initializeConnection h
  have hsent : sightings (⟨.sys (.send (t.self.infos slot).tcpSocket t.self.serverInfos.encode),
      sent⟩ :: rest) = sightings rest := by
    cases sent <;> rfl
  rw [hsent]
  rcases hsend with ⟨rfl, hn, hs⟩ | ⟨polled, rest', -, rfl, hpoll⟩
  · exact .inl ⟨hn, rfl, hs⟩
  have hpolled : sightings (⟨.sys (.poll [⟨(t.self.infos slot).tcpSocket, POLLIN, 0⟩] (-1)),
      polled⟩ :: rest') = sightings rest' := by
    cases polled <;> rfl
  rw [hpolled]
  rcases hpoll with ⟨rfl, hn, hs⟩ | ⟨got, rest'', -, rfl, hgot⟩
  · exact .inl ⟨hn, rfl, hs⟩
  rcases hgot with ⟨e, rfl, rfl, hn, hs⟩ | ⟨bs, t₁, rfl, hlen, hn, hs₁, hw⟩ |
    ⟨bs, rfl, hlen, rfl, hn, hs⟩
  · exact .inl ⟨hn, rfl, hs⟩
  · obtain ⟨hkept, hrecord, -⟩ := exec_writeRecord hw
    rw [hs₁] at hkept hrecord
    refine .inr ⟨bs.val, ?_, .inl ⟨hn, hlen, hkept, hrecord⟩⟩
    rw [sightings_cons, sightings_writeRecord hw]
    rfl
  · exact .inr ⟨bs.val, rfl, .inr ⟨hn, hlen, hs⟩⟩

/-- A failed accept: nothing came in, or what came in was closed again without a look at the peer's
record, or the descriptor closed is the one the peer's record left in the slot. -/
theorem sightings_acceptClient_failed (h : Exec acceptClient t tr (-1) t') :
    t.self.Kept t.self.pollNfds t'.self ∧
      (sightings tr = [] ∨ ∃ fd addr,
        sightings tr = [.accepted fd addr, .closed fd] ∨
        ∃ (r : UdtcpInfos) (bs : List UInt8), r.tcpSocket = fd ∧
          bs.length ≠ UdtcpInfos.sizeof ∧ sightings tr =
            [.accepted fd addr, .record fd bs, .closed (r.patch 0 bs).tcpSocket]) := by
  rcases exec_acceptClient h with ⟨e, rfl, -, hkept⟩ | ⟨fd, addr, rest, rfl, hcases⟩
  · exact ⟨hkept, .inl rfl⟩
  rcases hcases with ⟨-, -, hs, r, r', rfl⟩ | ⟨-, t₁, hs₁, hthen⟩
  · refine ⟨hs ▸ .refl _ _, .inr ⟨fd.val, addr, .inl ?_⟩⟩
    cases r <;> rfl
  have hkept : t.self.Kept t.self.pollNfds t₁.self :=
    hs₁ ▸ t.self.kept_modifyInfos _ (Nat.le_refl _)
  have hfd : (t₁.self.infos t.self.pollNfds).tcpSocket = fd.val := by
    rw [hs₁, UdtcpServer.infos_modifyInfos_self]
  obtain ⟨tr₁, o, t₂, rest, rfl, hopt, hrest⟩ := exec_admitClient hthen
  obtain ⟨hs₂, -, -⟩ := exec_udtcpSocketAddOption hopt
  have hseen (rest : Trace posix) :
      sightings (⟨.sys (.accept t.self.serverInfos.tcpSocket), .ok (fd, addr)⟩ :: (tr₁ ++ rest)) =
        .accepted fd.val addr :: sightings rest := by
    rw [sightings_cons, sightings_append, sightings_addOption hopt]
    rfl
  rw [hseen]
  rcases hrest with ⟨-, -, hs, r, rfl⟩ | ⟨-, tr₂, k, t₃, tr₃, rfl, hinit, hend⟩
  · refine ⟨hs ▸ hkept, .inr ⟨fd.val, addr, .inl ?_⟩⟩
    rw [hfd]
    rfl
  rcases hend with ⟨rfl, -, hs, r, rfl⟩ | ⟨-, hn, -⟩
  · rw [sightings_append]
    rcases sightings_initializeConnection hinit with ⟨-, hnone, hs₃⟩ |
      ⟨bs, hrecord, ⟨-, hlen, hkept₃, hpatch⟩ | ⟨hn, -⟩⟩
    · rw [hs₂] at hs₃
      refine ⟨by rw [hs, hs₃]; exact hkept, .inr ⟨fd.val, addr, .inl ?_⟩⟩
      rw [hnone, hs₃, hfd]
      rfl
    · rw [hs₂] at hkept₃ hpatch hrecord
      refine ⟨by rw [hs]; exact hkept.trans hkept₃, .inr ⟨fd.val, addr, .inr ?_⟩⟩
      refine ⟨t₁.self.infos t.self.pollNfds, bs, hfd, hlen, ?_⟩
      rw [hrecord, hpatch, hfd]
      rfl
    · cases hn
  · cases hn

/-- What is seen of a name and of the connect callback, when there are any. -/
def entrySightings (name : Option (List UInt8)) (callback : Bool) (slot : Nat) (r : UdtcpInfos) :
    List Sighting :=
  (name.map Sighting.named).toList ++ if callback then [.connected slot r] else []

/-- A successful accept: one descriptor, one record of the right length over it, one new entry
behind the last client. -/
theorem sightings_acceptClient_done (h : Exec acceptClient t tr n t') (hn : n ≠ -1)
    (hpos : 0 < t.self.pollNfds) :
    n = 0 ∧ t.self.pollNfds < pollTableSize m ∧
      ∃ (fd : Descriptor) (addr : SockaddrIn) (bs : List UInt8) (name : Option (List UInt8))
        (r : UdtcpInfos), bs.length = UdtcpInfos.sizeof ∧ t'.self = t.self.enter t.self.pollNfds r ∧
        sightings tr = .accepted fd.val addr :: .record fd.val bs ::
          entrySightings name t.self.connectCallback t.self.pollNfds r ∧
        ((∀ text, name = some text → NameFits text) → UdtcpInfos.SameLink
          { handshaken t.self.serverInfos
              { t.self.infos t.self.pollNfds with tcpAddr := addr, tcpSocket := fd.val } bs with
            send := t.self.sendAddr t.self.pollNfds, id := t.self.countId } r) := by
  rcases exec_acceptClient h with ⟨e, -, hfail, -⟩ | ⟨fd, addr, rest, rfl, hcases⟩
  · exact absurd hfail hn
  rcases hcases with ⟨-, hfail, -⟩ | ⟨hfree, t₁, hs₁, hthen⟩
  · exact absurd hfail hn
  obtain ⟨tr₁, o, t₂, rest, rfl, hopt, hrest⟩ := exec_admitClient hthen
  obtain ⟨hs₂, -, -⟩ := exec_udtcpSocketAddOption hopt
  rcases hrest with ⟨-, hfail, -⟩ | ⟨-, tr₂, k, t₃, tr₃, rfl, hinit, hend⟩
  · exact absurd hfail hn
  rcases hend with ⟨-, hfail, -⟩ | ⟨hk, rfl, hreg⟩
  · exact absurd hfail hn
  rcases sightings_initializeConnection hinit with ⟨hfail, -⟩ | ⟨bs, hrecord, ⟨hfail, -⟩ | hdone⟩
  · exact absurd hfail hk
  · exact absurd hfail hk
  obtain ⟨-, hlen, hs₃⟩ := hdone
  have hs₃ := hs₃ hpos
  rw [hs₂, hs₁] at hs₃ hrecord
  simp only [UdtcpServer.infos_modifyInfos_self, UdtcpServer.serverInfos_modifyInfos _ _ hpos]
    at hs₃ hrecord
  obtain ⟨key, name, rest, r, rfl, henter, hcall, hlink⟩ := exec_registerClient hreg
  refine ⟨rfl, hfree, fd, addr, bs, name, r, hlen, ?_, ?_, fun hname ↦ ?_⟩
  · rw [henter, hs₃]
    simp [UdtcpServer.enter, UdtcpServer.setInfos, UdtcpServer.modifyInfos]
  · have hcallback : t₃.self.connectCallback = t.self.connectCallback := by
      rw [hs₃]
      rfl
    rw [hcallback] at hcall
    have hentered : sightings (⟨.gethostbyaddr key, name⟩ :: rest) =
        entrySightings name t.self.connectCallback t.self.pollNfds r := by
      rw [sightings_cons, entrySightings]
      congr 1
      · cases name <;> rfl
      · rcases hcall with ⟨hcb, v, rfl⟩ | ⟨hcb, rfl⟩
        · rw [hcb, if_pos rfl]
          rfl
        · rw [hcb]
          rfl
    rw [sightings_cons, sightings_append, sightings_addOption hopt, sightings_append, hrecord,
      hentered]
    rfl
  · have hl := hlink hname
    rw [hs₃] at hl
    simp only [UdtcpServer.infos_setInfos_self] at hl
    exact hl

end

end Udtcp
