import Udtcp.Server.Accept
import Udtcp.Server.Create

/-!
# What a created server is like

The state in which `udtcp_create_server` of `create_server.c:38–243` returns zero.
-/

namespace Udtcp

open Interaction Routine

section

variable {τ : Type} {t t' : Thread τ} {tr : Trace posix}

/-- Binding a socket leaves the object alone and shows nothing. -/
theorem exec_bindSocket {fd : Fd} {addr : SockaddrIn} {o : Option SockaddrIn}
    (h : Exec (bindSocket fd addr) t tr o t') : t'.self = t.self ∧ sightings tr = [] := by
  unfold bindSocket at h
  obtain ⟨r, rest, rfl, hbind⟩ := exec_syscall_bind.mp h
  cases r with
  | error e =>
    obtain ⟨rfl, -, rfl⟩ := exec_pure.mp hbind
    exact ⟨rfl, rfl⟩
  | ok u =>
    obtain ⟨r, rest, rfl, hname⟩ := exec_syscall_bind.mp hbind
    cases r with
    | error e =>
      obtain ⟨rfl, -, rfl⟩ := exec_pure.mp hname
      exact ⟨rfl, rfl⟩
    | ok name =>
      obtain ⟨rfl, -, rfl⟩ := exec_pure.mp hname
      exact ⟨rfl, rfl⟩

end

section

variable {m : Nat} {t t' : Thread (UdtcpServer m)} {tr : Trace posix} {n : Int}

/-- A server whose two polled sockets are open. -/
structure UdtcpServer.Polls (s : UdtcpServer m) (tcp udp : Fd) : Prop where
  pollNfds : s.pollNfds = 2
  listener : (s.pollFds 0).fd = tcp ∧ s.serverInfos.tcpSocket = tcp
  receiver : (s.pollFds 1).fd = udp ∧ s.serverInfos.udpServerSocket = udp

/-- Changes of other fields of `server_infos`. -/
theorem UdtcpServer.Polls.modify {s : UdtcpServer m} {tcp udp : Fd} (h : s.Polls tcp udp)
    {f : UdtcpInfos → UdtcpInfos} (htcp : ∀ r, (f r).tcpSocket = r.tcpSocket)
    (hudp : ∀ r, (f r).udpServerSocket = r.udpServerSocket) :
    (s.modifyServerInfos f).Polls tcp udp := by
  have h₀ : (s.modifyServerInfos f).serverInfos = f s.serverInfos := s.infos_modifyInfos_self 0 f
  refine ⟨h.pollNfds, ⟨h.listener.1, ?_⟩, ⟨h.receiver.1, ?_⟩⟩
  · rw [h₀, htcp]
    exact h.listener.2
  · rw [h₀, hudp]
    exact h.receiver.2

/-- The end of a creation leaves the poll table alone. -/
theorem UdtcpServer.Polls.finish {s : UdtcpServer m} {tcp udp : Fd} (h : s.Polls tcp udp)
    {r : UdtcpInfos} (htcp : r.tcpSocket = tcp) (hudp : r.udpServerSocket = udp) (c : UInt64) :
    ({ s.setInfos 0 r with countId := c } : UdtcpServer m).Polls tcp udp := by
  have h₀ : (s.setInfos 0 r).serverInfos = r := s.infos_setInfos_self 0 r
  exact ⟨h.pollNfds, ⟨h.listener.1, (congrArg UdtcpInfos.tcpSocket h₀).trans htcp⟩,
    ⟨h.receiver.1, (congrArg UdtcpInfos.udpServerSocket h₀).trans hudp⟩⟩

namespace Server

private theorem exec_clearSends {s : UdtcpServer m} {is : List Nat} {u : Unit}
    (h : Exec (clearSends s is) t tr u t') : t' = t ∧ sightings tr = [] := by
  induction is generalizing tr t with
  | nil =>
    obtain ⟨rfl, -, rfl⟩ := exec_pure.mp h
    exact ⟨rfl, rfl⟩
  | cons i is ih =>
    obtain ⟨r, rest, rfl, hrest⟩ := exec_issue_bind.mp h
    obtain ⟨hself, hseen⟩ := ih hrest
    exact ⟨hself, by rw [sightings_cons, hseen]; rfl⟩

private theorem exec_initMutexes {s : UdtcpServer m} {is : List Nat} {o : Option Nat}
    (h : Exec (initMutexes s is) t tr o t') : t' = t ∧ sightings tr = [] := by
  induction is generalizing tr t with
  | nil =>
    obtain ⟨rfl, -, rfl⟩ := exec_pure.mp h
    exact ⟨rfl, rfl⟩
  | cons i is ih =>
    obtain ⟨ok, rest, rfl, hrest⟩ := exec_request_bind.mp h
    rw [exec_ite] at hrest
    split at hrest
    · obtain ⟨hself, hseen⟩ := ih hrest
      exact ⟨hself, by rw [sightings_cons, hseen]; rfl⟩
    · obtain ⟨rfl, -, rfl⟩ := exec_pure.mp hrest
      exact ⟨rfl, rfl⟩

/-- The failure exit returns `-1`. -/
theorem exec_abandon (h : Exec abandon t tr n t') : n = -1 := by
  obtain ⟨_, _, _, _, -, -, hret⟩ := exec_bind.mp h
  exact (exec_pure.mp hret).2.1

/-- So does that for sockets that could not be opened. -/
theorem exec_releaseServer {opened : List Fd} (h : Exec (releaseServer opened) t tr n t') :
    n = -1 := by
  unfold releaseServer at h
  rw [exec_self_bind] at h
  obtain ⟨_, _, _, _, -, -, hclose⟩ := exec_bind.mp h
  obtain ⟨_, _, _, _, -, -, hfree⟩ := exec_bind.mp hclose
  obtain ⟨_, _, -, hret⟩ := exec_issue_bind.mp hfree
  exact (exec_pure.mp hret).2.1

/-- What a server is like whose creation succeeded from some point on. -/
structure Finished (tcp udp : Fd) (tr : Trace posix) (s : UdtcpServer m) : Prop where
  polls : ∃ name : Option (List UInt8), sightings tr = (name.map Sighting.named).toList ∧
    ((∀ text, name = some text → NameFits text) → s.Polls tcp udp)
  countId : s.countId = 1

private theorem exec_finishServer {tcp udp : Fd} (hs : t.self.Polls tcp udp)
    (h : Exec finishServer t tr n t') : Finished tcp udp tr t'.self := by
  unfold finishServer at h
  rw [exec_update_bind] at h
  have hid : (t.self.modifyServerInfos fun r ↦ { r with id := 0 }).Polls tcp udp :=
    hs.modify (fun _ ↦ rfl) fun _ ↦ rfl
  obtain ⟨tr₁, _, t₁, tr₂, rfl, htext, hrest⟩ := exec_bind.mp h
  obtain ⟨w, hw, rfl⟩ := exec_onPart.mp htext
  obtain ⟨name, rfl, hlink⟩ := exec_udtcpSetStringInfos hw
  have hret := exec_update_bind.mp hrest
  obtain ⟨rfl, -, rfl⟩ := exec_pure.mp hret
  refine ⟨⟨name, ?_, fun hname ↦ ?_⟩, rfl⟩
  · cases name <;> rfl
  · have hl := hlink hname
    exact hid.finish (hl.tcpSocket.trans hid.listener.2)
      (hl.udpServerSocket.trans hid.receiver.2) 1

private theorem exec_listenServer {tcp udp : Fd} (hs : t.self.Polls tcp udp)
    (h : Exec listenServer t tr 0 t') : Finished tcp udp tr t'.self := by
  unfold listenServer at h
  rw [exec_update_bind, exec_self_bind] at h
  have hports := hs.modify (f := fun r ↦ { r with
    tcpPort := htons r.tcpAddr.sinPort
    udpServerPort := htons r.udpServerAddr.sinPort
    udpClientPort := htons r.udpClientAddr.sinPort }) (fun _ ↦ rfl) fun _ ↦ rfl
  obtain ⟨r, rest, rfl, hlisten⟩ := exec_syscall_bind.mp h
  cases r with
  | error e => cases exec_abandon hlisten
  | ok u =>
    have htcp := exec_self_bind.mp hlisten
    obtain ⟨tr₁, o₁, t₁, tr₂, rfl, h₁, hrest⟩ := exec_bind.mp htcp
    obtain ⟨hs₁, -⟩ := exec_udtcpSocketAddOption h₁
    rw [exec_ite] at hrest
    split at hrest
    · cases exec_abandon hrest
    have hudp := exec_self_bind.mp hrest
    obtain ⟨tr₃, o₂, t₂, tr₄, rfl, h₂, hrest⟩ := exec_bind.mp hudp
    obtain ⟨hs₂, -⟩ := exec_udtcpSocketAddOption h₂
    rw [exec_ite] at hrest
    split at hrest
    · cases exec_abandon hrest
    have hpolls : t₂.self.Polls tcp udp := by
      rw [hs₂, hs₁]
      exact hports
    obtain ⟨⟨name, hseen, hfin⟩, hcount⟩ := exec_finishServer hpolls hrest
    refine ⟨⟨name, ?_, hfin⟩, hcount⟩
    rw [sightings_cons, sightings_append, sightings_append, sightings_addOption h₁,
      sightings_addOption h₂, hseen]
    rfl

private theorem exec_bindOrAbandon {fd : Fd} {addr : SockaddrIn}
    {k : SockaddrIn → ServerProc m Int}
    (h : Exec (bindSocket fd addr >>= fun o ↦ match o with
      | none => abandon
      | some name => k name) t tr 0 t') :
    ∃ name t₁ rest, t₁.self = t.self ∧ sightings tr = sightings rest ∧
      Exec (k name) t₁ rest 0 t' := by
  obtain ⟨tr₁, o, t₁, rest, rfl, hbind, hrest⟩ := exec_bind.mp h
  obtain ⟨hself, hseen⟩ := exec_bindSocket hbind
  cases o with
  | none => cases exec_abandon hrest
  | some name =>
    refine ⟨name, t₁, rest, hself, ?_, hrest⟩
    rw [sightings_append, hseen]
    rfl

private theorem exec_bindSockets {host : Hostent} {tcpPort udpServerPort udpClientPort : UInt16}
    {tcp udp : Fd} (hs : t.self.Polls tcp udp)
    (h : Exec (bindSockets host tcpPort udpServerPort udpClientPort) t tr 0 t') :
    Finished tcp udp tr t'.self := by
  unfold bindSockets at h
  have h₁ := exec_self_bind.mp (exec_self_bind.mp (exec_update_bind.mp h))
  obtain ⟨name₁, t₁, rest₁, hs₁, hseen₁, hnext⟩ := exec_bindOrAbandon h₁
  have h₂ := exec_self_bind.mp (exec_self_bind.mp (exec_update_bind.mp hnext))
  obtain ⟨name₂, t₂, rest₂, hs₂, hseen₂, hnext⟩ := exec_bindOrAbandon h₂
  have h₃ := exec_self_bind.mp (exec_self_bind.mp (exec_update_bind.mp hnext))
  obtain ⟨name₃, t₃, rest₃, hs₃, hseen₃, hnext⟩ := exec_bindOrAbandon h₃
  have hp₁ : t₁.self.Polls tcp udp := by
    rw [hs₁]
    dsimp only
    apply hs.modify <;> exact fun _ ↦ rfl
  have hp₂ : t₂.self.Polls tcp udp := by
    rw [hs₂]
    dsimp only
    apply hp₁.modify <;> exact fun _ ↦ rfl
  have hp₃ : t₃.self.Polls tcp udp := by
    rw [hs₃]
    dsimp only
    apply hp₂.modify <;> exact fun _ ↦ rfl
  have hpolls := hp₃.modify (f := fun r ↦ { r with udpClientAddr := name₃ }) (fun _ ↦ rfl)
    fun _ ↦ rfl
  obtain ⟨⟨name, hseen, hfin⟩, hcount⟩ := exec_listenServer hpolls (exec_update_bind.mp hnext)
  exact ⟨⟨name, by rw [hseen₁, hseen₂, hseen₃, hseen], hfin⟩, hcount⟩

private theorem exec_openSockets {host : Hostent} {tcpPort udpServerPort udpClientPort : UInt16}
    (h : Exec (openSockets host tcpPort udpServerPort udpClientPort) t tr 0 t') :
    ∃ tcp udp other : Descriptor, ∃ rest, Finished tcp.val udp.val rest t'.self ∧
      sightings tr =
        .opened tcp.val :: .opened udp.val :: .opened other.val :: sightings rest := by
  unfold openSockets at h
  obtain ⟨r, rest, rfl, htcp⟩ := exec_syscall_bind.mp h
  cases r with
  | error e => cases exec_releaseServer htcp
  | ok tcp =>
    have hnext := exec_update_bind.mp (exec_update_bind.mp (exec_update_bind.mp htcp))
    obtain ⟨r, rest, rfl, hudp⟩ := exec_syscall_bind.mp hnext
    cases r with
    | error e => cases exec_releaseServer hudp
    | ok udp =>
      have hnext := exec_update_bind.mp (exec_update_bind.mp (exec_update_bind.mp hudp))
      obtain ⟨r, rest, rfl, hother⟩ := exec_syscall_bind.mp hnext
      cases r with
      | error e => cases exec_releaseServer hother
      | ok other =>
        have hbind := exec_update_bind.mp hother
        refine ⟨tcp, udp, other, rest, exec_bindSockets ?_ hbind, rfl⟩
        exact ⟨rfl, ⟨rfl, rfl⟩, ⟨rfl, rfl⟩⟩

end Server

/-- **Creation.** A server whose creation succeeded opened three sockets and polls the first two;
its next id is one. -/
theorem exec_udtcpCreateServer {hostname : List UInt8}
    {tcpPort udpServerPort udpClientPort : UInt16}
    (h : Exec (udtcpCreateServer hostname tcpPort udpServerPort udpClientPort) t tr 0 t') :
    ∃ tcp udp other : Descriptor, ∃ rest, Server.Finished tcp.val udp.val rest t'.self ∧
      sightings tr =
        .opened tcp.val :: .opened udp.val :: .opened other.val :: sightings rest := by
  unfold udtcpCreateServer at h
  obtain ⟨host, rest, rfl, hhost⟩ := exec_request_bind.mp h
  cases host with
  | none =>
    have hret := exec_setErrno_bind.mp hhost
    cases (exec_pure.mp hret).2.1
  | some host =>
    obtain ⟨r, rest, rfl, hnew⟩ := exec_syscall_bind.mp hhost
    cases r with
    | error e => cases (exec_pure.mp hnew).2.1
    | ok addr =>
      have hzero := exec_self_bind.mp (exec_update_bind.mp hnew)
      obtain ⟨tr₁, _, t₁, tr₂, rfl, hclear, hinit⟩ := exec_bind.mp hzero
      obtain ⟨rfl, hseen₁⟩ := Server.exec_clearSends hclear
      obtain ⟨tr₂, o, t₂, tr₃, rfl, hmutex, hopen⟩ := exec_bind.mp hinit
      obtain ⟨rfl, hseen₂⟩ := Server.exec_initMutexes hmutex
      cases o with
      | some i =>
        obtain ⟨_, _, _, _, -, -, hfree⟩ := exec_bind.mp hopen
        obtain ⟨_, _, -, hret⟩ := exec_issue_bind.mp hfree
        cases (exec_pure.mp hret).2.1
      | none =>
        obtain ⟨tcp, udp, other, rest, hdone, hseen⟩ := Server.exec_openSockets hopen
        refine ⟨tcp, udp, other, rest, hdone, ?_⟩
        rw [sightings_cons, sightings_cons, sightings_append, sightings_append, hseen₁, hseen₂,
          hseen]
        rfl

end

end Udtcp
