import Udtcp.Creation.Addressing
import Udtcp.Creation.Stages

/-!
# Sockets and the host they are meant for

`udtcp_create_server` and `udtcp_create_client` pass the address of the host, which is in network
order already, through `htonl` before each bind, and take the port fields from the addresses the
sockets report.
-/

namespace Udtcp

open Interaction Routine

section

variable {us vs : List Addressing} {host : Hostent} {r : UdtcpInfos}

@[simp] private theorem reportedPorts_append (us vs : List Addressing) :
    reportedPorts (us ++ vs) = reportedPorts us ++ reportedPorts vs := List.filterMap_append

@[simp] private theorem namedTexts_append (us vs : List Addressing) :
    namedTexts (us ++ vs) = namedTexts us ++ namedTexts vs := List.filterMap_append

@[simp] private theorem hostTexts_append (us vs : List Addressing) :
    hostTexts (us ++ vs) = hostTexts us ++ hostTexts vs := List.filterMap_append

/-- A creation that failed. -/
theorem Turned.made {texts : List Addressing → List (List UInt8)} (h : Turned host us) :
    Made texts host (-1) r us := ⟨h, fun hn ↦ by cases hn⟩

private theorem turned_bindingsOf (addr : SockaddrIn) (name : Option SockaddrIn)
    (h : addr.sAddr = htonl host.addr) : Turned host (bindingsOf addr name) := by
  cases name with
  | none => exact List.forall_mem_cons.mpr ⟨h, fun _ hu ↦ absurd hu List.not_mem_nil⟩
  | some name =>
    exact List.forall_mem_cons.mpr ⟨h, List.forall_mem_singleton.mpr trivial⟩

/-- The ports are taken from the addresses the sockets report. -/
theorem Bound.ports (h : Bound host r us) (htcp : r.tcpPort = htons r.tcpAddr.sinPort)
    (hserver : r.udpServerPort = htons r.udpServerAddr.sinPort)
    (hclient : r.udpClientPort = htons r.udpClientAddr.sinPort) : r.ports = reportedPorts us := by
  rw [h.reported, UdtcpInfos.ports, htcp, hserver, hclient]
  simp only [htons_eq_hostOrder]

end

private theorem must_written_addOption {τ α : Type} {t : Thread τ} {us : List Addressing} {fd : Fd}
    {f : Int → Proc τ α} {Q : α → Thread τ → List Addressing → Prop}
    (h : ∀ n t', t'.self = t.self → Must (written addressingOf) (f n) t' us Q) :
    Must (written addressingOf) (udtcpSocketAddOption fd O_NONBLOCK >>= f) t us Q :=
  must_unviewed_bind (emits_udtcpSocketAddOption (fun _ ↦ rfl) fun _ _ ↦ rfl)
    fun _ _ _ hrun ↦ h _ _ (exec_udtcpSocketAddOption hrun).1

/-! ### The stages both roles share -/

section

variable {τ : Type} {t : Thread τ} {us : List Addressing} {host : Hostent}
  {Q : Int → Thread τ → List Addressing → Prop}

private theorem must_written_openingSockets {note₁ note₂ note₃ : Fd → τ → τ}
    {release : List Fd → Proc τ Int} {rest : Proc τ Int}
    (hrelease : ∀ opened t', Must (written addressingOf) (release opened) t' us Q)
    (hrest : ∀ t', Must (written addressingOf) rest t' us Q) :
    Must (written addressingOf) (openingSockets note₁ note₂ note₃ release rest) t us Q := by
  unfold openingSockets
  refine must_unviewed_syscall (fun _ ↦ rfl) fun tcp ↦ ?_
  cases tcp with
  | error e => exact hrelease _ _
  | ok tcp =>
    refine must_update_bind (must_unviewed_syscall (fun _ ↦ rfl) fun udp ↦ ?_)
    cases udp with
    | error e => exact hrelease _ _
    | ok udp =>
      refine must_update_bind (must_unviewed_syscall (fun _ ↦ rfl) fun other ↦ ?_)
      cases other with
      | error e => exact hrelease _ _
      | ok other => exact must_update_bind (hrest _)

private theorem must_written_bindOrAbandon {fd : Fd} {addr : SockaddrIn} {abandon : Proc τ Int}
    {k : SockaddrIn → Proc τ Int} (h : Turned host us) (haddr : addr.sAddr = htonl host.addr)
    (habandon : ∀ t' us', Turned host us' → Must (written addressingOf) abandon t' us' Q)
    (hk : ∀ name t', t'.self = t.self → Turned host (us ++ bindingsOf addr (some name)) →
      Must (written addressingOf) (k name) t' (us ++ bindingsOf addr (some name)) Q) :
    Must (written addressingOf) (bindSocket fd addr >>= fun o ↦ match o with
      | none => abandon
      | some name => k name) t us Q := by
  refine must_written_bindSocket fun name t' ht' ↦ ?_
  have hturned := h.append (turned_bindingsOf addr name haddr)
  cases name with
  | none => exact habandon t' _ hturned
  | some name => exact hk name t' ht' hturned

private theorem must_written_bindingSockets {own : OwnInfos τ} {abandon rest : Proc τ Int}
    {p q r : UInt16}
    (habandon : ∀ t' us', Turned host us' → Must (written addressingOf) abandon t' us' Q)
    (hrest : ∀ t' us', Bound host (own.infos t'.self) us' → namedTexts us' = [] →
      hostTexts us' = [host.name] → Must (written addressingOf) rest t' us' Q) :
    Must (written addressingOf) (bindingSockets own abandon rest host p q r) t
      [.resolved host] Q := by
  have hturned : Turned host [.resolved host] := List.forall_mem_singleton.mpr rfl
  unfold bindingSockets
  refine must_update_bind (must_self_bind (must_self_bind ?_))
  simp only [own.infos_modify]
  refine must_written_bindOrAbandon hturned rfl habandon fun name₁ t₁ h₁ hturned₁ ↦ ?_
  refine must_update_bind (must_self_bind (must_self_bind ?_))
  simp only [own.infos_modify]
  refine must_written_bindOrAbandon hturned₁ rfl habandon fun name₂ t₂ h₂ hturned₂ ↦ ?_
  refine must_update_bind (must_self_bind (must_self_bind ?_))
  simp only [own.infos_modify]
  refine must_written_bindOrAbandon hturned₂ rfl habandon fun name₃ t₃ h₃ hturned₃ ↦ ?_
  refine must_update_bind (hrest _ _ ⟨hturned₃, ?_, ⟨bindAddr host.addr p, ?_⟩, ?_⟩ rfl rfl)
  · exact List.mem_cons_self
  · exact List.mem_cons_of_mem _ List.mem_cons_self
  · rw [own.infos_modify, h₃, own.infos_modify, h₂, own.infos_modify]
    rfl

end

/-! ### Servers -/

section

variable {m : Nat} {t : Thread (UdtcpServer m)} {us : List Addressing} {host : Hostent}

namespace Server

/-- What the routines of a creation come to. -/
def Makes (host : Hostent) (n : Int) (t : Thread (UdtcpServer m)) (us : List Addressing) : Prop :=
  Made namedTexts host n t.self.serverInfos us

private theorem must_abandonMade (h : Turned host us) :
    Must (written addressingOf) abandon t us (Makes host) :=
  must_unviewed_bind (fun _ _ _ _ hrun e he ↦ (deletes_udtcpDeleteServer _ _ _ _ hrun e
    he).unviewed)
    fun _ _ _ _ ↦ must_pure h.made

private theorem must_finishServer (h : Bound host t.self.serverInfos us)
    (hnamed : namedTexts us = [])
    (hports : t.self.serverInfos.ports = reportedPorts us) :
    Must (written addressingOf) finishServer t us (Makes host) := by
  unfold finishServer
  refine must_update_bind (must_bind (must_onPart ?_))
  refine must_written_udtcpSetStringInfos.mono ?_
  rintro _ u us' ⟨name, rfl, hkept⟩
  refine must_update_bind (must_pure ⟨h.turned.append ?_, fun _ ↦ ⟨?_, ?_, ?_⟩⟩)
  · cases name with
    | none => exact fun _ hu ↦ absurd hu List.not_mem_nil
    | some text => exact List.forall_mem_singleton.mpr trivial
  · exact List.mem_append_left _ h.resolved
  · obtain ⟨addr, haddr⟩ := h.bound
    exact ⟨addr, List.mem_append_left _ haddr⟩
  · have hsame : reportedPorts (us ++ (name.map .named).toList) = reportedPorts us := by
      cases name <;> simp [reportedPorts]
    have htexts : namedTexts (us ++ (name.map .named).toList) = name.toList := by
      rw [namedTexts_append, hnamed]
      cases name <;> rfl
    have hbefore : UdtcpInfos.ports
        ((t.self.modifyServerInfos fun r ↦ { r with id := 0 }).infos 0) =
        reportedPorts us := hports
    rw [hsame, htexts]
    dsimp only at hkept
    rw [hbefore] at hkept
    refine hkept.trans (forall_congr' fun text ↦ ?_)
    rw [Option.mem_toList]

private theorem must_listenServer (h : Bound host t.self.serverInfos us)
    (hnamed : namedTexts us = []) :
    Must (written addressingOf) listenServer t us (Makes host) := by
  unfold listenServer
  refine must_update_bind (must_self_bind ?_)
  have hb : Bound host (t.self.modifyServerInfos fun r ↦ { r with
      tcpPort := htons r.tcpAddr.sinPort
      udpServerPort := htons r.udpServerAddr.sinPort
      udpClientPort := htons r.udpClientAddr.sinPort }).serverInfos us := ⟨h.1, h.2, h.3, h.4⟩
  refine must_unviewed_syscall (fun _ ↦ rfl) fun r ↦ ?_
  cases r with
  | error e => exact must_abandonMade h.turned
  | ok u =>
    refine must_self_bind (must_written_addOption fun n₁ t₁ h₁ ↦ ?_)
    refine must_ite (fun _ ↦ must_abandonMade h.turned) fun _ ↦ must_self_bind ?_
    refine must_written_addOption fun n₂ t₂ h₂ ↦ ?_
    refine must_ite (fun _ ↦ must_abandonMade h.turned) fun _ ↦ ?_
    have hself : t₂.self = t.self.modifyServerInfos fun r ↦ { r with
      tcpPort := htons r.tcpAddr.sinPort
      udpServerPort := htons r.udpServerAddr.sinPort
      udpClientPort := htons r.udpClientAddr.sinPort } := h₂.trans h₁
    rw [← hself] at hb
    refine must_finishServer hb hnamed (hb.ports ?_ ?_ ?_)
    all_goals rw [hself]; rfl

private theorem must_bindSockets {p q r : UInt16} :
    Must (written addressingOf) (bindSockets host p q r) t [.resolved host] (Makes host) := by
  rw [bindSockets_eq]
  exact must_written_bindingSockets (fun _ _ ↦ must_abandonMade) fun _ _ h hnamed _ ↦
    must_listenServer h hnamed

private theorem must_releaseServerMade {opened : List Fd} (h : Turned host us) :
    Must (written addressingOf) (releaseServer opened) t us (Makes host) := by
  have hdestroy (s : UdtcpServer m) (is : List Nat) : Emits Deletes (destroyMutexes s is) := by
    induction is with
    | nil => exact emits_pure _
    | cons i is ih => exact (emits_issue fun _ ↦ rfl).bind fun _ ↦ ih
  unfold releaseServer
  refine must_self_bind (must_unviewed_bind (fun _ _ _ _ hrun e he ↦
    (hdestroy _ _ _ _ _ _ hrun e he).unviewed) fun _ _ _ _ ↦ ?_)
  refine must_unviewed_bind (fun _ _ _ _ hrun e he ↦
    (deletes_closeAll _ _ _ _ _ hrun e he).unviewed) fun _ _ _ _ ↦ ?_
  exact must_unviewed_bind (emits_issue fun _ ↦ rfl) fun _ _ _ _ ↦ must_pure h.made

private theorem must_openSockets {p q r : UInt16} :
    Must (written addressingOf) (openSockets host p q r) t [.resolved host] (Makes host) := by
  rw [openSockets_eq]
  exact must_written_openingSockets
    (fun _ _ ↦ must_releaseServerMade (List.forall_mem_singleton.mpr rfl)) fun _ ↦ must_bindSockets

end Server

/-- **Creation of a server.** Where a host is found, every address bound is that of the host turned
around, and the ports of a server that was created are those its sockets report, up to the name
that is found for it. -/
theorem must_udtcpCreateServer_made {hostname : List UInt8} {p q r : UInt16} :
    Must (written addressingOf) (udtcpCreateServer hostname p q r) t [] fun n t' us ↦
      (n = -1 ∧ us = []) ∨ ∃ host, Server.Makes host n t' us := by
  have hclear (s : UdtcpServer m) (is : List Nat) :
      Emits (Unviewed addressingOf) (Server.clearSends s is) := by
    induction is with
    | nil => exact emits_pure _
    | cons i is ih => exact (emits_issue fun _ ↦ rfl).bind fun _ ↦ ih
  have hinit (s : UdtcpServer m) (is : List Nat) :
      Emits (Unviewed addressingOf) (Server.initMutexes s is) := by
    induction is with
    | nil => exact emits_pure _
    | cons i is ih => exact Emits.bind (emits_perform fun _ ↦ rfl) fun _ ↦ .ite ih (emits_pure _)
  have hdestroy (s : UdtcpServer m) (is : List Nat) :
      Emits (Unviewed addressingOf) (Server.destroyMutexes s is) := by
    induction is with
    | nil => exact emits_pure _
    | cons i is ih => exact (emits_issue fun _ ↦ rfl).bind fun _ ↦ ih
  unfold udtcpCreateServer
  refine must_written_request fun host ↦ ?_
  cases host with
  | none => exact must_setErrno_bind (must_pure (.inl ⟨rfl, rfl⟩))
  | some host =>
    have hturned : Turned host [.resolved host] := List.forall_mem_singleton.mpr rfl
    refine Must.mono (Q := Server.Makes host) ?_ fun _ _ _ hmade ↦ .inr ⟨host, hmade⟩
    refine must_unviewed_syscall (fun _ ↦ rfl) fun addr ↦ ?_
    cases addr with
    | error e => exact must_pure hturned.made
    | ok addr =>
      refine must_update_bind (must_self_bind (must_unviewed_bind (hclear _ _) fun _ _ _ _ ↦ ?_))
      refine must_unviewed_bind (hinit _ _) fun _ o _ _ ↦ ?_
      cases o with
      | none => exact Server.must_openSockets
      | some i =>
        refine must_unviewed_bind (hdestroy _ _) fun _ _ _ _ ↦ ?_
        exact must_unviewed_bind (emits_issue fun _ ↦ rfl) fun _ _ _ _ ↦ must_pure hturned.made

end

/-! ### Clients -/

section

variable {t : Thread UdtcpClient} {us : List Addressing} {host : Hostent}

namespace Client

/-- What the routines of a creation come to. -/
def Makes (host : Hostent) (n : Int) (t : Thread UdtcpClient) (us : List Addressing) : Prop :=
  Made hostTexts host n t.self.clientInfos us

private theorem must_abandonMade (h : Turned host us) :
    Must (written addressingOf) abandon t us (Makes host) :=
  must_unviewed_bind (fun _ _ _ _ hrun e he ↦ (deletes_udtcpDeleteClient _ _ _ _ hrun e
    he).unviewed)
    fun _ _ _ _ ↦ must_pure h.made

private theorem must_finishClient (h : Bound host t.self.clientInfos us)
    (hname : hostTexts us = [host.name]) (hports : t.self.clientInfos.ports = reportedPorts us) :
    Must (written addressingOf) (finishClient host) t us (Makes host) := by
  unfold finishClient
  refine must_update_bind (must_update_bind (must_bind (must_onPart ?_)))
  refine must_written_copyText (must_self_bind (must_ite (fun _ ↦ must_update ?_) fun _ ↦
    must_crash))
  refine must_update_bind (must_self_bind (must_unviewed_syscall (fun _ ↦ rfl) fun r ↦
    must_pure ?_))
  refine ⟨h.turned, fun _ ↦ ⟨h.resolved, h.bound, ?_⟩⟩
  have hrecord (r : UdtcpInfos) (addr : UInt32) (hr : r.ports = reportedPorts us) :
      ((r.patch UdtcpInfos.hostnameOffset host.name).patch UdtcpInfos.ipOffset
        (inetNtoa addr)).ports = reportedPorts us ↔
      UdtcpInfos.SparesPorts host.name (reportedPorts us) := by
    rw [UdtcpInfos.ports_patch_inetNtoa _ (Nat.le_refl _), ← hr,
      UdtcpInfos.ports_patch_hostname_eq_iff]
  rw [hname, List.forall_mem_singleton, Thread.note_self]
  exact hrecord _ _ hports

private theorem must_unblockSockets (h : Bound host t.self.clientInfos us)
    (hname : hostTexts us = [host.name]) :
    Must (written addressingOf) (unblockSockets host) t us (Makes host) := by
  unfold unblockSockets
  refine must_update_bind (must_self_bind (must_written_addOption fun n₁ t₁ h₁ ↦ ?_))
  refine must_ite (fun _ ↦ must_abandonMade h.turned) fun _ ↦ must_self_bind ?_
  refine must_written_addOption fun n₂ t₂ h₂ ↦ ?_
  refine must_ite (fun _ ↦ must_abandonMade h.turned) fun _ ↦ ?_
  have hself := h₂.trans h₁
  have hb : Bound host t₂.self.clientInfos us := by
    rw [hself]
    exact ⟨h.1, h.2, h.3, h.4⟩
  refine must_finishClient hb hname (hb.ports ?_ ?_ ?_)
  all_goals rw [hself]; rfl

private theorem must_bindSockets {p q r : UInt16} :
    Must (written addressingOf) (bindSockets host p q r) t [.resolved host] (Makes host) := by
  rw [bindSockets_eq]
  exact must_written_bindingSockets (fun _ _ ↦ must_abandonMade) fun _ _ h _ hname ↦
    must_unblockSockets h hname

private theorem must_setReuse {p q r : UInt16} :
    Must (written addressingOf) (setReuse host p q r) t [.resolved host] (Makes host) := by
  have hturned : Turned host [.resolved host] := List.forall_mem_singleton.mpr rfl
  have hset (option : SocketOption) (fds : List Fd) :
      Emits (Unviewed addressingOf) (setOptions option fds : ClientProc Bool) := by
    induction fds with
    | nil => exact emits_pure _
    | cons fd fds ih =>
      refine (emits_syscall fun _ ↦ rfl).bind fun r ↦ ?_
      cases r with
      | error e => exact emits_pure _
      | ok u => exact ih
  unfold setReuse
  refine must_self_bind (must_unviewed_bind (hset _ _) fun _ _ _ _ ↦ ?_)
  refine must_ite (fun _ ↦ must_unviewed_bind (hset _ _) fun _ _ _ _ ↦ ?_) fun _ ↦
    must_abandonMade hturned
  exact must_ite (fun _ ↦ must_bindSockets) fun _ ↦ must_abandonMade hturned

private theorem must_releaseClientMade {opened : List Fd} (h : Turned host us) :
    Must (written addressingOf) (releaseClient opened) t us (Makes host) := by
  unfold releaseClient
  refine must_self_bind (must_unviewed_bind (emits_perform fun _ ↦ rfl) fun _ _ _ _ ↦ ?_)
  refine must_unviewed_bind (fun _ _ _ _ hrun e he ↦
    (deletes_closeAll _ _ _ _ _ hrun e he).unviewed) fun _ _ _ _ ↦ ?_
  exact must_unviewed_bind (emits_issue fun _ ↦ rfl) fun _ _ _ _ ↦ must_pure h.made

private theorem must_openSockets {p q r : UInt16} :
    Must (written addressingOf) (openSockets host p q r) t [.resolved host] (Makes host) := by
  rw [openSockets_eq]
  exact must_written_openingSockets
    (fun _ _ ↦ must_releaseClientMade (List.forall_mem_singleton.mpr rfl)) fun _ ↦ must_setReuse

end Client

/-- **Creation of a client**, in the same way, up to the name reported with the host. -/
theorem must_udtcpCreateClient_made {hostname : List UInt8} {p q r : UInt16} :
    Must (written addressingOf) (udtcpCreateClient hostname p q r) t [] fun n t' us ↦
      (n = -1 ∧ us = []) ∨ ∃ host, Client.Makes host n t' us := by
  unfold udtcpCreateClient
  refine must_written_request fun host ↦ ?_
  cases host with
  | none => exact must_setErrno_bind (must_pure (.inl ⟨rfl, rfl⟩))
  | some host =>
    have hturned : Turned host [.resolved host] := List.forall_mem_singleton.mpr rfl
    refine Must.mono (Q := Client.Makes host) ?_ fun _ _ _ hmade ↦ .inr ⟨host, hmade⟩
    refine must_unviewed_syscall (fun _ ↦ rfl) fun addr ↦ ?_
    cases addr with
    | error e => exact must_pure hturned.made
    | ok addr =>
      refine must_update_bind (must_self_bind (must_unviewed_bind (emits_issue fun _ ↦ rfl) ?_))
      refine fun _ _ _ _ ↦ must_unviewed_bind (emits_perform fun _ ↦ rfl) fun _ _ _ _ ↦ ?_
      refine must_ite (fun _ ↦ Client.must_openSockets) fun _ ↦ ?_
      exact must_unviewed_bind (emits_issue fun _ ↦ rfl) fun _ _ _ _ ↦ must_pure hturned.made

end

end Udtcp
