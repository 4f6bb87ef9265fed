import Udtcp.Client.Calls
import Udtcp.Client.Possible
import Udtcp.Creation.Hosts
import Udtcp.Server.Delete

/-!
# The host that is bound and the host that is dialled

`udtcp_connect_client` dials the address of the host as `gethostbyname` reports it; the sockets of
a server are bound to that address exactly where `htonl` leaves it alone.
-/

namespace Udtcp

open Interaction Routine

/-! ### Connections -/

/-- No host is found, and every address dialled is `a`. -/
def Dials (a : UInt32) (e : Event posix) : Prop :=
  ∀ u, addressingOf e.call e.reply = some u → match u with
    | .resolved _ => False
    | .dialed addr => addr.sAddr = a
    | _ => True

section

variable {a : UInt32}

private theorem dials_of_none {e : Event posix} (h : addressingOf e.call e.reply = none) :
    Dials a e := by
  intro u hu
  cases h.symm.trans hu

private theorem dials_prepares (c : SysCall) (r : Except Errno c.Result) (hc : c.prepares = true) :
    Dials a ⟨.sys c, r⟩ := by
  cases c
  case bind fd addr =>
    intro u hu
    obtain rfl := Option.some.inj hu
    trivial
  case getsockname => cases hc
  case connect => cases hc
  all_goals exact dials_of_none rfl

private theorem recordCalls_dials : RecordCalls (Dials a) where
  poll _ _ _ := dials_of_none rfl
  record _ _ _ := dials_of_none rfl
  load _ _ := dials_of_none rfl
  store _ _ _ := dials_of_none rfl

private theorem dials_named (key : List UInt8) (name : Option (List UInt8)) :
    Dials a ⟨.gethostbyaddr key, name⟩ := by
  cases name with
  | none => exact dials_of_none rfl
  | some text =>
    intro u hu
    obtain rfl := Option.some.inj hu
    trivial

private theorem dials_initializeConnection : Emits (Dials a) Client.initializeConnection := by
  intro t tr result t' h
  rcases Client.exec_initializeConnection recordCalls_dials h with
    ⟨-, hall⟩ | ⟨pre, fd, data, r, rfl, hpre, -⟩
  · exact hall
  · exact List.forall_mem_append.mpr ⟨hpre, List.forall_mem_singleton.mpr (dials_of_none rfl)⟩

private theorem dials_adoptServer (addr : UInt32) : Emits (Dials a) (Client.adoptServer addr) := by
  intro t tr u t' h
  obtain ⟨pre, r, rfl, hpre⟩ := Client.exec_adoptServer dials_named h
  refine List.forall_mem_append.mpr ⟨hpre, ?_⟩
  split
  · exact List.forall_mem_singleton.mpr (dials_of_none rfl)
  · exact fun _ he ↦ absurd he List.not_mem_nil

private theorem dials_dialled {addr : UInt32} {tcpPort : UInt16} {timeout : Int} :
    Emits (Dials addr) (do
      update fun c ↦ { c with serverInfos := { c.serverInfos with
        tcpAddr := ⟨AF_INET, htons tcpPort, addr, .replicate 8 0⟩ } }
      match ← Client.connectSocket ⟨AF_INET, htons tcpPort, addr, .replicate 8 0⟩ timeout with
      | some result => return result
      | none =>
        match ← Client.initializeConnection with
        | .success =>
          Client.adoptServer addr
          return .success
        | result =>
          Client.closeTcpSocket
          return result : ClientProc UdtcpConnect) := by
  refine (emits_update _).bind fun _ ↦ (Client.emits_connectSocket dials_prepares _ _ ?_).bind ?_
  · rintro fd r u hu
    obtain rfl := Option.some.inj hu
    rfl
  · intro o
    cases o with
    | some result => exact emits_pure _
    | none =>
      refine dials_initializeConnection.bind fun result ↦ ?_
      cases result
      case success => exact (dials_adoptServer _).bind fun _ ↦ emits_pure _
      all_goals exact (Client.emits_closeTcpSocket dials_prepares).bind fun _ ↦ emits_pure _

private theorem dials_udtcpConnectClient {hostname : List UInt8} {tcpPort : UInt16} {timeout : Int}
    {t t' : Thread UdtcpClient} {tr : Trace posix} {result : UdtcpConnect}
    (h : Exec (udtcpConnectClient hostname tcpPort timeout) t tr result t') :
    ∃ host, ∀ e ∈ tr, e = ⟨.gethostbyname hostname, some host⟩ ∨ Dials host.addr e := by
  have hend {a : UInt32} (result : UdtcpConnect) :
      Emits (Dials a) (do Client.closeTcpSocket; return result) :=
    (Client.emits_closeTcpSocket dials_prepares).bind fun _ ↦ emits_pure _
  unfold udtcpConnectClient at h
  obtain ⟨tr₁, n, t₁, tr₂, rfl, hcreate, hrest⟩ := exec_bind.mp h
  have hcreated (a : UInt32) : ∀ e ∈ tr₁, Dials a e :=
    Client.emits_createTcpSocket dials_prepares _ _ _ _ hcreate
  rw [exec_ite] at hrest
  split at hrest
  · refine ⟨⟨[], 0⟩, fun e he ↦ .inr ?_⟩
    rcases List.mem_append.mp he with he | he
    · exact hcreated _ e he
    · exact hend _ _ _ _ _ hrest e he
  · obtain ⟨host, rest, rfl, hhost⟩ := exec_request_bind.mp hrest
    cases host with
    | none =>
      obtain ⟨rfl, -, -⟩ := exec_pure.mp hhost
      refine ⟨⟨[], 0⟩, fun e he ↦ .inr ?_⟩
      rcases List.mem_append.mp he with he | he
      · exact hcreated _ e he
      · obtain rfl := List.mem_singleton.mp he
        exact dials_of_none rfl
    | some host =>
      refine ⟨host, fun e he ↦ ?_⟩
      rcases List.mem_append.mp he with he | he
      · exact .inr (hcreated _ e he)
      · rcases List.mem_cons.mp he with rfl | he
        · exact .inl rfl
        · exact .inr (dials_dialled _ _ _ _ hhost e he)

/-- **Connection.** The address dialled is that of the host. -/
theorem dialed_udtcpConnectClient {hostname : List UInt8} {tcpPort : UInt16} {timeout : Int}
    {t t' : Thread UdtcpClient} {tr : Trace posix} {result : UdtcpConnect}
    (h : Exec (udtcpConnectClient hostname tcpPort timeout) t tr result t') {host : Hostent}
    {addr : SockaddrIn} (hhost : .resolved host ∈ addressings tr)
    (hdialed : .dialed addr ∈ addressings tr) : addr.sAddr = host.addr := by
  obtain ⟨found, hall⟩ := dials_udtcpConnectClient h
  obtain ⟨e, he, hu⟩ := List.mem_filterMap.mp hhost
  obtain rfl : found = host := by
    rcases hall e he with rfl | hdials
    · exact Addressing.resolved.inj (Option.some.inj hu)
    · exact (hdials _ hu).elim
  obtain ⟨e', he', hu'⟩ := List.mem_filterMap.mp hdialed
  rcases hall e' he' with rfl | hdials
  · cases hu'
  · exact hdials _ hu'

end

/-! ### Creation and connection -/

/-- What creation is asked for: sockets bound to the address of the host, and port fields that
hold the ports the sockets report. -/
structure AsRequested (us : List Addressing) (r : UdtcpInfos) : Prop where
  bound : ∀ host addr, .resolved host ∈ us → .bound addr ∈ us → addr.sAddr = host.addr
  ports : r.ports = reportedPorts us

/-- The address of the host reads the same in both orders, and the names that go over `hostname`
have the reported ports at the places of the port fields, as far as they get there. -/
structure Harmless (texts : List Addressing → List (List UInt8)) (us : List Addressing) :
    Prop where
  address : ∀ host, .resolved host ∈ us → htonl host.addr = host.addr
  names : ∀ text ∈ texts us, UdtcpInfos.SparesPorts text (reportedPorts us)

/-- A creation with result `n` that leaves the record `r` does what it is asked for where the input
is harmless, and nowhere else: each bind of any creation, and all there is to a successful one. -/
structure CreatedFor (texts : List Addressing → List (List UInt8)) (n : Int) (r : UdtcpInfos)
    (us : List Addressing) : Prop where
  binds : ∀ host addr, .resolved host ∈ us → .bound addr ∈ us →
    (addr.sAddr = host.addr ↔ htonl host.addr = host.addr)
  success : n = 0 → (AsRequested us r ↔ Harmless texts us)

section

variable {texts : List Addressing → List (List UInt8)} {host : Hostent} {n : Int} {r : UdtcpInfos}
  {us : List Addressing}

private theorem Turned.sAddr_eq_iff (h : Turned host us) {host' : Hostent} {addr : SockaddrIn}
    (hhost : .resolved host' ∈ us) (hbound : .bound addr ∈ us) :
    addr.sAddr = host'.addr ↔ htonl host'.addr = host'.addr := by
  obtain rfl : host' = host := h _ hhost
  rw [show addr.sAddr = htonl host'.addr from h _ hbound]

private theorem Made.createdFor (h : Made texts host n r us) : CreatedFor texts n r us where
  binds _ _ hhost hbound := h.turned.sAddr_eq_iff hhost hbound
  success hn := by
    obtain ⟨hhost, ⟨addr, haddr⟩, hports⟩ := h.done hn
    constructor
    · intro hasked
      refine ⟨fun host' hhost' ↦ ?_, hports.mp hasked.ports⟩
      exact (h.turned.sAddr_eq_iff hhost' haddr).mp (hasked.bound _ _ hhost' haddr)
    · intro hless
      refine ⟨fun host' addr' hhost' haddr' ↦ ?_, hports.mpr hless.names⟩
      exact (h.turned.sAddr_eq_iff hhost' haddr').mpr (hless.address _ hhost')

private theorem createdFor_of_nil (hn : n = -1) (hus : us = []) : CreatedFor texts n r us := by
  subst hn hus
  exact ⟨fun _ _ hhost ↦ absurd hhost List.not_mem_nil, fun h ↦ by cases h⟩

end

/-- **Sockets are bound to the host that is asked for** exactly where its address reads the same
backwards, and the ports of what was created are those its sockets report exactly where the name
that goes over `hostname` spares them. A connection dials the address of the host as it is, so it
reaches what a server was bound to under the same condition. -/
theorem sockets_bound_to_host_iff (hostname : List UInt8) (p q r : UInt16) :
    (∀ m (t t' : Thread (UdtcpServer m)) tr n, Exec (udtcpCreateServer hostname p q r) t tr n t' →
      CreatedFor namedTexts n t'.self.serverInfos (addressings tr)) ∧
    (∀ t t' tr n, Exec (udtcpCreateClient hostname p q r) t tr n t' →
      CreatedFor hostTexts n t'.self.clientInfos (addressings tr)) ∧
    ∀ t t' tr result port timeout, Exec (udtcpConnectClient hostname port timeout) t tr result t' →
      ∀ host addr, .resolved host ∈ addressings tr → .dialed addr ∈ addressings tr →
        addr.sAddr = host.addr ∧
        ∀ m (s s' : Thread (UdtcpServer m)) str n,
          Exec (udtcpCreateServer hostname p q r) s str n s' → .resolved host ∈ addressings str →
          ∀ bound, .bound bound ∈ addressings str →
            (bound.sAddr = addr.sAddr ↔ htonl host.addr = host.addr) := by
  have hserver (m : Nat) (t t' : Thread (UdtcpServer m)) (tr : Trace posix) (n : Int)
      (h : Exec (udtcpCreateServer hostname p q r) t tr n t') :
      CreatedFor namedTexts n t'.self.serverInfos (addressings tr) := by
    rcases exec_written must_udtcpCreateServer_made h with ⟨hn, hus⟩ | ⟨host, hmade⟩
    · exact createdFor_of_nil hn hus
    · exact Made.createdFor hmade
  refine ⟨hserver, fun t t' tr n h ↦ ?_, fun t t' tr result port timeout h host addr hhost hdial ↦
    ?_⟩
  · rcases exec_written must_udtcpCreateClient_made h with ⟨hn, hus⟩ | ⟨host, hmade⟩
    · exact createdFor_of_nil hn hus
    · exact Made.createdFor hmade
  · have haddr := dialed_udtcpConnectClient h hhost hdial
    refine ⟨haddr, fun m s s' str n hs hfound bound hbound ↦ ?_⟩
    rw [haddr]
    exact (hserver m s s' str n hs).binds host bound hfound hbound

/-- Creations and a connection that succeed meet the description. -/
theorem sockets_bound_to_host_created :
    (∃ (t t' : Thread (UdtcpServer 1)) (tr : Trace posix),
      Exec (udtcpCreateServer [] 0 0 0) t tr 0 t' ∧
      CreatedFor namedTexts 0 t'.self.serverInfos (addressings tr)) ∧
    (∃ (t t' : Thread UdtcpClient) (tr : Trace posix),
      Exec (udtcpCreateClient [] 0 0 0) t tr 0 t' ∧
      CreatedFor hostTexts 0 t'.self.clientInfos (addressings tr)) ∧
    ∃ (t t' : Thread UdtcpClient) (tr : Trace posix) (addr : SockaddrIn),
      Exec (udtcpConnectClient [] 0 0) t tr .success t' ∧
      .dialed addr ∈ addressings tr ∧ addr.sAddr = 0 := by
  obtain ⟨hserver, hclient, hconnect⟩ := sockets_bound_to_host_iff [] 0 0 0
  obtain ⟨tr₁, n₁, t₁, h₁, rfl, -⟩ := may_udtcpCreateServer (m := 1) ⟨.other 0, .zero 0⟩
    ⟨3, by decide⟩ ⟨4, by decide⟩ ⟨5, by decide⟩
  obtain ⟨tr₂, n₂, t₂, h₂, rfl, -⟩ := may_udtcpCreateClient ⟨.other 0, .zero 0⟩
    ⟨3, by decide⟩ ⟨4, by decide⟩ ⟨5, by decide⟩
  obtain ⟨tr₃, result, t₃, h₃, rfl, key, r, rfl, -⟩ := may_udtcpConnectClient t₂ ⟨6, by decide⟩ 0
    length_blankRecord
  refine ⟨⟨_, t₁, tr₁, h₁, hserver 1 _ _ _ _ h₁⟩, ⟨_, t₂, tr₂, h₂, hclient _ _ _ _ h₂⟩, ?_⟩
  have hfound : (⟨.gethostbyname [], some ⟨[], 0⟩⟩ : Event posix) ∈
      connectionCalls t₂.self ⟨6, by decide⟩ 0 blankRecord.val length_blankRecord := by
    simp [connectionCalls]
  have hdial : (⟨.sys (.connect 6 ⟨AF_INET, htons 0, 0, .replicate 8 0⟩), .ok ()⟩ : Event posix) ∈
      connectionCalls t₂.self ⟨6, by decide⟩ 0 blankRecord.val length_blankRecord := by
    simp [connectionCalls]
  have hdialed (rest : Trace posix) := mem_addressings (List.mem_append_left rest hdial) rfl
  exact ⟨_, t₃, _, _, h₃, hdialed _,
    (hconnect _ _ _ _ _ _ h₃ _ _ (mem_addressings (List.mem_append_left _ hfound) rfl)
    (hdialed _)).1⟩

/-- **The defect.** Asked to bind to 127.0.0.1, `udtcp_create_server` binds to 1.0.0.127. -/
theorem creation_binds_other_host : ∃ (t t' : Thread (UdtcpServer 0)) (tr : Trace posix) (n : Int)
    (host : Hostent) (addr : SockaddrIn), Exec (udtcpCreateServer [] 0 0 0) t tr n t' ∧
      .resolved host ∈ addressings tr ∧ .bound addr ∈ addressings tr ∧
      host.addr = 0x0100007f ∧ addr.sAddr = 0x7f000001 := by
  have hrun : May (udtcpCreateServer [] 0 0 0) (⟨.other 0, .zero 0⟩ : Thread (UdtcpServer 0))
      fun tr _ _ ↦ .resolved ⟨[], 0x0100007f⟩ ∈ addressings tr ∧
        .bound (bindAddr 0x0100007f 0) ∈ addressings tr := by
    unfold udtcpCreateServer
    refine may_request_bind (some ⟨[], 0x0100007f⟩) (may_syscall_bind (.ok (0 : UInt64)) ?_)
    refine may_update_bind (may_self_bind (may_bind ?_))
    refine may_issue_bind () (may_issue_bind () (may_pure (may_bind (may_pure ?_))))
    unfold Server.openSockets
    refine may_syscall_bind (.ok (⟨3, by decide⟩ : Descriptor)) ?_
    refine may_update_bind (may_update_bind (may_update_bind ?_))
    refine may_syscall_bind (.ok (⟨4, by decide⟩ : Descriptor)) ?_
    refine may_update_bind (may_update_bind (may_update_bind ?_))
    refine may_syscall_bind (.ok (⟨5, by decide⟩ : Descriptor)) (may_update_bind ?_)
    unfold Server.bindSockets
    refine may_update_bind (may_self_bind (may_self_bind (may_bind ?_)))
    refine may_syscall_bind (.error (.other 99)) (may_pure (may_bind ?_))
    refine (may_udtcpDeleteServer _).mono fun tr _ _ _ ↦ may_pure ⟨?_, ?_⟩
    · exact List.mem_cons_self
    · exact List.mem_cons_of_mem _ List.mem_cons_self
  obtain ⟨tr, n, t', h, hhost, hbound⟩ := hrun
  exact ⟨_, t', tr, n, _, _, h, hhost, hbound, rfl, by decide⟩

end Udtcp
