import Udtcp.Descriptors.Life
import Udtcp.Send.Mutexes
import Udtcp.Server.Calls
import Udtcp.Server.Serving
import Udtcp.Table.Seats

/-!
# The mutexes of a server over its life

`udtcp_create_server` initialises the mutexes of all send structures from the third on, and every
client is given one of these. Messages lock and unlock them, the deletion destroys each of them.
-/

namespace Udtcp

open Interaction Routine

section

variable {m : Nat}

namespace UdtcpServer

/-- Where the send structures with a mutex lie. -/
def sendAddrs (s : UdtcpServer m) : List UInt64 :=
  (List.range' 2 (pollTableSize m - 2)).map s.sendAddr

private theorem sendAddr_mem_sendAddrs {s : UdtcpServer m} {i : Nat} (hlow : 2 ≤ i)
    (hi : i < pollTableSize m) : s.sendAddr i ∈ s.sendAddrs :=
  List.mem_map_of_mem (List.mem_range'_1.mpr ⟨hlow, by omega⟩)

private theorem sendAddrs_congr {s s' : UdtcpServer m} (h : s'.addr = s.addr) :
    s'.sendAddrs = s.sendAddrs := by
  have hat : s'.sendAddr = s.sendAddr := by
    funext i
    rw [sendAddr, h]
    rfl
  rw [sendAddrs, hat]
  rfl

private theorem nodup_sendAddrs {s : UdtcpServer m} (hm : 72 * pollTableSize m ≤ 2 ^ 64) :
    s.sendAddrs.Nodup := by
  have htable : pollTableSize m = 2 + m := rfl
  refine (List.nodup_range').map_on fun i hi j hj hsame ↦ ?_
  have hi := (List.mem_range'_1.mp hi).2
  have hj := (List.mem_range'_1.mp hj).2
  exact sendAddr_inj hm (by omega) (by omega) hsame

/-- The compaction does not move the server. -/
theorem compact_addr (s : UdtcpServer m) : s.compact.addr = s.addr :=
  compact_congr (·.addr) removeSlot_addr s

end UdtcpServer

/-- A server whose mutexes are all free and whose clients have theirs among them. -/
structure Guards (s : UdtcpServer m) (k : Mutexes) : Prop where
  ready : k.Ready s.sendAddrs
  pollNfds : 2 ≤ s.pollNfds
  seated : ∀ i, 2 ≤ i → i < s.pollNfds → (s.infos i).send ∈ s.sendAddrs

namespace Guards

variable {s s' : UdtcpServer m} {k : Mutexes}

/-- Only the addresses, the table size and the pointers matter. -/
theorem congr (h : Guards s k) (haddr : s'.addr = s.addr) (hn : s'.pollNfds = s.pollNfds)
    (hsend : ∀ i < s.pollNfds, (s'.infos i).send = (s.infos i).send) : Guards s' k := by
  have haddrs := UdtcpServer.sendAddrs_congr haddr
  refine ⟨haddrs ▸ h.ready, hn ▸ h.pollNfds, fun i hlow hi ↦ ?_⟩
  rw [hn] at hi
  rw [hsend i hi, haddrs]
  exact h.seated i hlow hi

/-- A client that comes in is given the mutex of its slot. -/
theorem enter (h : Guards s k) (hfree : s.pollNfds < pollTableSize m) {r : UdtcpInfos}
    (hr : r.send = s.sendAddr s.pollNfds) : Guards (s.enter s.pollNfds r) k := by
  refine ⟨h.ready, Nat.le_succ_of_le h.pollNfds, fun i hlow hi ↦ ?_⟩
  have hi : i < s.pollNfds + 1 := hi
  show (Function.update s.infos s.pollNfds r i).send ∈ s.sendAddrs
  by_cases hlast : i = s.pollNfds
  · rw [hlast, Function.update_self, hr]
    exact UdtcpServer.sendAddr_mem_sendAddrs h.pollNfds hfree
  · rw [Function.update_of_ne hlast]
    exact h.seated i hlow (by omega)

/-- Records that move keep theirs. -/
theorem compact (h : Guards s k) : Guards s.compact k := by
  have haddrs := UdtcpServer.sendAddrs_congr s.compact_addr
  obtain ⟨-, hlen, -, -⟩ :=
    UdtcpServer.compactFrom_spec (s := s) (Nat.le_add_right s.pollNfds 2) h.pollNfds
  refine ⟨haddrs ▸ h.ready, hlen, fun i hlow hi ↦ ?_⟩
  obtain ⟨-, j, hj, hjn, hslot⟩ := UdtcpServer.exists_slot_compact h.pollNfds hlow hi
  rw [(Prod.mk.inj hslot).2, haddrs]
  exact h.seated j hj hjn

end Guards

/-! ### Passes -/

private theorem receiverCalls_noMutex (fd : Fd) : ReceiverCalls NoMutex fd where
  peek _ := rfl
  take _ _ _ _ _ := rfl
  newBuffer _ _ := rfl
  freeBuffer _ _ := rfl
  poll _ := rfl
  recvWord _ := rfl
  recvBuffer _ _ _ _ _ := rfl

private theorem maintains_acceptClient_mutexes : Maintains mutexKernel
    (fun t k ↦ Guards t.self k) (acceptClient : ServerProc m Int) := by
  intro t k h tr n t' k' hrun ha
  have hcalls : AcceptCalls NoMutex :=
    ⟨fun _ _ _ ↦ rfl, fun _ _ ↦ rfl, fun _ _ ↦ rfl, fun _ _ _ ↦ rfl, fun _ _ _ ↦ rfl⟩
  rw [accepts_mutexKernel_of_noMutex (emits_acceptClient hcalls _ _ _ _ hrun) ha]
  by_cases hn : n = -1
  · subst hn
    obtain ⟨hkept, -⟩ := sightings_acceptClient_failed hrun
    exact h.congr hkept.addr hkept.pollNfds fun i hi ↦ by rw [hkept.infos i hi]
  · obtain ⟨-, hfree, fd, addr, bs, name, r, -, hself, hseen, hlink⟩ :=
      sightings_acceptClient_done hrun hn (Nat.lt_of_lt_of_le Nat.zero_lt_two h.pollNfds)
    show Guards t'.self k
    rw [hself]
    refine h.enter hfree (hlink ?_).send
    rintro text rfl
    have hmem : Sighting.named text ∈ sightings tr := by
      rw [hseen]
      simp [entrySightings]
    exact length_le_of_accepts ha hmem

private theorem serverPassRules_mutexes :
    Server.PassRules mutexKernel (fun (t : Thread (UdtcpServer m)) k ↦ Guards t.self k) where
  poll fds timeout t k r k' h hstep := by
    rw [mutexKernel_eq_of_noMutex (noMutex_sys _ r) hstep, Thread.note_self]
    exact h
  revents t k revents h := h.congr rfl rfl fun _ _ ↦ rfl
  flag t k r k' h hstep := by
    rw [mutexKernel_eq_of_noMutex (c := .pollLoop) rfl hstep]
    exact h
  acceptClient := maintains_acceptClient_mutexes
  receiveTcp slot := by
    intro t k h tr n t' k' hrun ha
    obtain ⟨u, hu, rfl⟩ := exec_receiveTcp.mp hrun
    rw [accepts_mutexKernel_of_noMutex
      (emits_receiveTcpWith (receiverCalls_noMutex _) (fun _ _ _ _ ↦ rfl) cInt _ _ _ _ hu) ha]
    exact h.congr rfl rfl fun _ _ ↦ rfl
  receiveUdp := by
    intro t k h tr n t' k' hrun ha
    obtain ⟨u, hu, rfl⟩ := exec_receiveUdp.mp hrun
    rw [accepts_mutexKernel_of_noMutex (emits_receiveUdpWith
      (receiverCalls_noMutex _).toDatagramCalls (fun _ _ _ _ _ ↦ rfl) cInt _ _ _ _ hu) ha]
    exact h.congr rfl rfl fun _ _ ↦ rfl
  dropClient slot := by
    intro t k h tr u t' k' hrun ha
    obtain ⟨r, r', rest, rfl, hrest, hself⟩ := exec_dropClient hrun
    have hnone : ∀ e ∈ rest, NoMutex e := by
      rw [hrest]
      split
      · exact List.forall_mem_singleton.mpr rfl
      · exact List.forall_mem_nil _
    rw [accepts_mutexKernel_of_noMutex (List.forall_mem_cons.mpr ⟨noMutex_sys _ r,
      List.forall_mem_cons.mpr ⟨noMutex_sys _ r', hnone⟩⟩) ha, hself]
    exact h.congr rfl rfl fun _ _ ↦ rfl
  compact t k h := h.compact

/-! ### Creation -/

section

variable {addr : UInt64} {k₀ : Mutexes}

-- A server under construction whose mutexes are done.
private structure MutexesSet (addr : UInt64) (k₀ : Mutexes) (t : Thread (UdtcpServer m))
    (k : Mutexes) : Prop where
  addr : t.self.addr = addr
  pollNfds : t.self.pollNfds = 2
  mutexes : k = k₀

namespace Server

private theorem must_clearSends_mutexes {t : Thread (UdtcpServer m)} {k : Mutexes}
    {s : UdtcpServer m} {is : List Nat} :
    Must mutexKernel (clearSends s is) t k fun _ t' k' ↦ t' = t ∧ k' = k := by
  induction is with
  | nil => exact must_pure ⟨rfl, rfl⟩
  | cons i is ih =>
    refine must_issue_bind fun u k₁ hstep ↦ ?_
    rw [mutexKernel_eq_of_noMutex (c := .storeSend (s.sendAddr i) .zero) rfl hstep]
    exact ih

private theorem must_initMutexes_mutexes {t : Thread (UdtcpServer m)} {k : Mutexes}
    {s : UdtcpServer m} {is : List Nat} {addrs : List UInt64} (h : k.Ready addrs)
    (hnodup : (is.map s.sendAddr ++ addrs).Nodup) :
    Must mutexKernel (initMutexes s is) t k fun o t' k' ↦
      t' = t ∧ (o = none → k'.Ready (is.map s.sendAddr ++ addrs)) := by
  induction is generalizing k addrs with
  | nil => exact must_pure ⟨rfl, fun _ ↦ h⟩
  | cons i is ih =>
    have hperm : (s.sendAddr i :: (is.map s.sendAddr ++ addrs)).Perm
        (is.map s.sendAddr ++ s.sendAddr i :: addrs) := List.perm_middle.symm
    have hnew : s.sendAddr i ∉ addrs := fun hmem ↦
      (List.nodup_cons.mp hnodup).1 (List.mem_append_right _ hmem)
    unfold initMutexes
    refine must_request_bind fun ok k₁ hstep ↦ must_ite (fun hok ↦ ?_) fun _ ↦ must_pure ?_
    · subst hok
      have h₁ : k₁.Ready (s.sendAddr i :: addrs) := hstep.2 ▸ h.create hnew
      refine (ih h₁ (hperm.nodup_iff.mp hnodup)).mono fun o t' k' ⟨ht, hdone⟩ ↦ ⟨ht, fun hnone ↦ ?_⟩
      exact (hdone hnone).congr fun a ↦ hperm.mem_iff
    · exact ⟨rfl, fun hsome ↦ by cases hsome⟩

private theorem opened_syscall (c : SysCall) :
    Maintains mutexKernel (MutexesSet (m := m) addr k₀) (syscall c) :=
  maintains_syscall fun t k r k' h hstep ↦ by
    rw [mutexKernel_eq_of_noMutex (noMutex_sys c r) hstep]
    exact ⟨(Thread.note_self t r).symm ▸ h.addr, (Thread.note_self t r).symm ▸ h.pollNfds,
      h.mutexes⟩

private theorem opened_addOption (fd : Fd) (option : Nat) :
    Maintains mutexKernel (MutexesSet (m := m) addr k₀) (udtcpSocketAddOption fd option) := by
  unfold udtcpSocketAddOption
  refine (opened_syscall _).bind fun r ↦ ?_
  cases r with
  | error e => exact maintains_pure _
  | ok flags =>
    refine (opened_syscall _).bind fun r ↦ ?_
    cases r <;> exact maintains_pure _

private theorem opened_abandon :
    MaintainsFor mutexKernel (MutexesSet (m := m) addr k₀) (· = 0) abandon :=
  maintainsFor_of_not fun _ _ _ _ hrun hzero ↦ by cases (exec_abandon hrun).symm.trans hzero

private theorem opened_bindSocket {f : SockaddrIn → ServerProc m Int}
    (hf : ∀ name, MaintainsFor mutexKernel (MutexesSet addr k₀) (· = 0) (f name)) (fd : Fd)
    (name : SockaddrIn) : MaintainsFor mutexKernel (MutexesSet addr k₀) (· = 0)
      (bindSocket fd name >>= fun o ↦
        match o with
        | none => abandon
        | some name => f name) := by
  have hbind : Maintains mutexKernel (MutexesSet (m := m) addr k₀) (bindSocket fd name) := by
    unfold bindSocket
    refine (opened_syscall _).bind fun r ↦ ?_
    cases r with
    | error e => exact maintains_pure _
    | ok u =>
      refine (opened_syscall _).bind fun r ↦ ?_
      cases r <;> exact maintains_pure _
  refine .bind hbind fun o ↦ ?_
  cases o with
  | none => exact opened_abandon
  | some name => exact hf name

private theorem opened_modifyServerInfos (f : UdtcpInfos → UdtcpInfos) :
    Maintains mutexKernel (MutexesSet (m := m) addr k₀) (update (·.modifyServerInfos f)) :=
  maintains_update fun _ _ h ↦ ⟨h.addr, h.pollNfds, h.mutexes⟩

private theorem opened_finishServer :
    Maintains mutexKernel (MutexesSet (m := m) addr k₀) finishServer := by
  have htexts : Maintains mutexKernel (MutexesSet (m := m) addr k₀)
      (onInfos 0 (udtcpSetStringInfos (·.tcpAddr))) := by
    intro t k h tr u t' k' hrun ha
    obtain ⟨u, hu, rfl⟩ := exec_onPart.mp hrun
    obtain ⟨name, rfl, -⟩ := exec_udtcpSetStringInfos hu
    obtain ⟨k₁, hname, rfl⟩ := ha
    have hsame := mutexKernel_eq_of_noMutex (c := .gethostbyaddr _) rfl hname
    exact ⟨h.addr, h.pollNfds, hsame.trans h.mutexes⟩
  unfold finishServer
  refine (opened_modifyServerInfos _).bind fun _ ↦ htexts.bind fun _ ↦ ?_
  refine (maintains_update fun _ _ h ↦ ?_).bind fun _ ↦ maintains_pure _
  exact ⟨h.addr, h.pollNfds, h.mutexes⟩

private theorem opened_listenServer :
    MaintainsFor mutexKernel (MutexesSet (m := m) addr k₀) (· = 0) listenServer := by
  refine .bind (opened_modifyServerInfos _) fun _ ↦ .bind maintains_self fun s ↦
    .bind (opened_syscall _) fun r ↦ ?_
  cases r with
  | error e => exact opened_abandon
  | ok u =>
    refine .bind maintains_self fun s ↦ .bind (opened_addOption _ _) fun o ↦ .ite opened_abandon ?_
    refine .bind maintains_self fun s ↦ .bind (opened_addOption _ _) fun o ↦ .ite opened_abandon ?_
    exact opened_finishServer.maintainsFor

private theorem opened_bindSockets (host : Hostent) (p q r : UInt16) :
    MaintainsFor mutexKernel (MutexesSet (m := m) addr k₀) (· = 0) (bindSockets host p q r) := by
  refine .bind (opened_modifyServerInfos _) fun _ ↦ .bind maintains_self fun _ ↦
    .bind maintains_self fun _ ↦ opened_bindSocket (fun _ ↦ ?_) _ _
  refine .bind (opened_modifyServerInfos _) fun _ ↦ .bind maintains_self fun _ ↦
    .bind maintains_self fun _ ↦ opened_bindSocket (fun _ ↦ ?_) _ _
  refine .bind (opened_modifyServerInfos _) fun _ ↦ .bind maintains_self fun _ ↦
    .bind maintains_self fun _ ↦ opened_bindSocket (fun _ ↦ ?_) _ _
  exact .bind (opened_modifyServerInfos _) fun _ ↦ opened_listenServer

private theorem must_openSockets_mutexes {t : Thread (UdtcpServer m)} {host : Hostent}
    {p q r : UInt16} (haddr : t.self.addr = addr) :
    Must mutexKernel (openSockets host p q r) t k₀ fun n t' k' ↦
      n = 0 → MutexesSet addr k₀ t' k' := by
  have hrelease (opened : List Fd) (t : Thread (UdtcpServer m)) (k : Mutexes) : Must mutexKernel
      (releaseServer opened) t k fun n t' k' ↦ n = 0 → MutexesSet addr k₀ t' k' :=
    fun _ _ _ _ hrun _ hzero ↦ by cases (exec_releaseServer hrun).symm.trans hzero
  have hsocket {kind : SocketKind} {t : Thread (UdtcpServer m)}
      {f : Except Errno Descriptor → ServerProc m Int} {opened : List Fd}
      (hfail : ∀ e, f (.error e) = releaseServer opened)
      (hf : ∀ fd, Must mutexKernel (f (.ok fd)) t k₀ fun n t' k' ↦
        n = 0 → MutexesSet addr k₀ t' k') :
      Must mutexKernel (syscall (.socket kind) >>= f) t k₀ fun n t' k' ↦
        n = 0 → MutexesSet addr k₀ t' k' := by
    refine must_syscall_bind fun r k₁ hstep ↦ ?_
    rw [mutexKernel_eq_of_noMutex (noMutex_sys _ r) hstep]
    cases r with
    | error e => exact hfail e ▸ hrelease _ _ _
    | ok fd => exact hf fd
  unfold openSockets
  refine hsocket (fun _ ↦ rfl) fun tcp ↦ must_update_bind (must_update_bind (must_update_bind ?_))
  refine hsocket (fun _ ↦ rfl) fun udp ↦ must_update_bind (must_update_bind (must_update_bind ?_))
  refine hsocket (fun _ ↦ rfl) fun other ↦ must_update_bind ?_
  exact opened_bindSockets host p q r _ _ ⟨haddr, rfl, rfl⟩

end Server

/-- A server that was created has its mutexes free. -/
theorem must_udtcpCreateServer_mutexes {hostname : List UInt8} {p q r : UInt16}
    {t : Thread (UdtcpServer m)} (hm : 72 * pollTableSize m ≤ 2 ^ 64) :
    Must mutexKernel (udtcpCreateServer hostname p q r) t (.start .raw) fun n t' k' ↦
      n = 0 → Guards t'.self k' := by
  unfold udtcpCreateServer
  refine must_request_bind fun host k₁ hstep ↦ ?_
  rw [mutexKernel_eq_of_noMutex (c := .gethostbyname hostname) rfl hstep]
  cases host with
  | none => exact must_setErrno_bind (must_pure fun hzero ↦ by cases hzero)
  | some host =>
    refine must_syscall_bind fun addr k₂ hstep ↦ ?_
    rw [mutexKernel_eq_of_noMutex (noMutex_sys _ addr) hstep]
    cases addr with
    | error e => exact must_pure fun hzero ↦ by cases hzero
    | ok addr =>
      refine must_update_bind (must_self_bind (must_bind (Server.must_clearSends_mutexes.mono ?_)))
      rintro _ t₁ k₃ ⟨rfl, rfl⟩
      refine must_bind ((Server.must_initMutexes_mutexes Mutexes.Ready.start ?_).mono ?_)
      · rw [List.append_nil]
        exact UdtcpServer.nodup_sendAddrs hm
      rintro o t₂ k₄ ⟨rfl, hready⟩
      cases o with
      | some i =>
        exact must_bind fun _ _ _ _ _ _ ↦ must_issue_bind fun _ _ _ ↦ must_pure fun hzero ↦ by
          cases hzero
      | none =>
        refine (Server.must_openSockets_mutexes rfl).mono fun n t' k' hopened hzero ↦ ?_
        obtain ⟨haddr, hn, rfl⟩ := hopened hzero
        have hready := hready rfl
        rw [List.append_nil] at hready
        refine ⟨?_, hn.ge, fun i hlow hi ↦ ?_⟩
        · rw [UdtcpServer.sendAddrs_congr haddr]
          exact hready
        · omega

end

/-! ### Deletion -/

private theorem emits_closeIfOpen_noMutex {τ : Type} (fd : Fd) :
    Emits NoMutex (closeIfOpen fd : Proc τ Unit) :=
  .ite ((emits_syscall fun r ↦ noMutex_sys _ r).bind fun _ ↦ emits_pure _) (emits_pure _)

private theorem must_releaseSends_mutexes {t : Thread (UdtcpServer m)} {k : Mutexes}
    {s : UdtcpServer m} {is : List Nat} (h : k.Ready (is.map s.sendAddr))
    (hnodup : (is.map s.sendAddr).Nodup) :
    Must mutexKernel (Server.releaseSends s is) t k fun _ _ k' ↦ k'.Ready [] := by
  induction is generalizing t k with
  | nil => exact must_pure h
  | cons i is ih =>
    obtain ⟨hnew, hnodup⟩ := List.nodup_cons.mp hnodup
    have hdestroy (t : Thread (UdtcpServer m)) : Must mutexKernel (do
        issue (.mutexDestroy (s.sendAddr i))
        Server.releaseSends s is) t k fun _ _ k' ↦ k'.Ready [] :=
      must_issue_bind fun u k₁ hstep ↦ ih (hstep.2 ▸ h.destroy hnew) hnodup
    unfold Server.releaseSends
    refine must_request_bind fun v k₁ hstep ↦ ?_
    rw [mutexKernel_eq_of_noMutex (c := .loadSend (s.sendAddr i)) rfl hstep]
    refine must_ite (fun _ ↦ ?_) fun _ ↦ hdestroy t
    cases v.buffer with
    | none => exact hdestroy t
    | some b =>
      refine must_issue_bind fun u k₂ hstep ↦ ?_
      rw [mutexKernel_eq_of_noMutex (c := .freeBuffer b.ptr) rfl hstep]
      exact hdestroy t

private theorem emits_releaseClients_noMutex (s : UdtcpServer m) (is : List Nat) :
    Emits NoMutex (Server.releaseClients s is) := by
  induction is with
  | nil => exact emits_pure _
  | cons i is ih =>
    refine Emits.bind (.ite ?_ (emits_pure _)) fun _ ↦ (emits_closeIfOpen_noMutex _).bind fun _ ↦ ?_
    · exact (emits_syscall fun r ↦ noMutex_sys _ r).bind fun _ ↦ emits_pure _
    · exact .ite ((emits_issue fun _ ↦ rfl).bind fun _ ↦ ih) ih

/-- A server that is deleted leaves no mutex. -/
theorem must_udtcpDeleteServer_mutexes {t : Thread (UdtcpServer m)} {k : Mutexes}
    (hm : 72 * pollTableSize m ≤ 2 ^ 64) (h : Guards t.self k) :
    Must mutexKernel udtcpDeleteServer t k fun _ _ k' ↦ k'.Ready [] := by
  unfold udtcpDeleteServer
  refine must_self_bind (must_bind (must_noMutex (emits_closeIfOpen_noMutex _) fun _ _ t₁ _ ↦ ?_))
  refine must_bind (must_noMutex (emits_closeIfOpen_noMutex _) fun _ _ t₂ _ ↦ ?_)
  refine must_bind (must_noMutex (emits_closeIfOpen_noMutex _) fun _ _ t₃ _ ↦ must_bind ?_)
  refine (must_releaseSends_mutexes h.ready (UdtcpServer.nodup_sendAddrs hm)).mono ?_
  intro _ t₄ k₁ h₁
  refine must_noMutex (Emits.bind (emits_releaseClients_noMutex _ _) fun _ ↦ ?_) fun _ _ _ _ ↦ h₁
  refine .ite ?_ (emits_issue fun _ ↦ rfl)
  cases t.self.buffer.bufferData with
  | none => exact emits_issue fun _ ↦ rfl
  | some b => exact (emits_issue fun _ ↦ rfl).bind fun _ ↦ emits_issue fun _ ↦ rfl

/-! ### Lives -/

private theorem lifeRules_mutexes (hm : 72 * pollTableSize m ≤ 2 ^ 64) :
    LifeRules mutexKernel (.start .raw) (Guards (m := m)) where
  create _ _ _ _ _ := must_udtcpCreateServer_mutexes hm
  pass fuel timeout t k h := serverPassRules_mutexes.maintains_udtcpServerPoll fuel timeout t k h
  send message slot t k h hslot hlive hinfos := by
    have hfree : k.state message.infos.send = .free :=
      h.ready.state_of_mem (hinfos ▸ h.seated slot hslot hlive)
    refine (must_run_mutexes hfree).mono fun _ t' k' ⟨hself, hk⟩ ↦ ?_
    rw [hself, hk]
    exact h
  configure _ _ _ _ _ _ h := h.congr rfl rfl fun _ _ ↦ rfl

private theorem path_of_ready {addrs : List UInt64} {tr : Trace posix} {k : Mutexes}
    (h : k.Ready addrs) (ha : mutexKernel.Accepts (.start .raw) tr k) (addr : UInt64) :
    (eventsOf addr (eventsIn mutexEvents tr)).foldlM mutexNext .raw = some (k.state addr) := by
  have hend : k = (Custody.start .raw).follow mutexNext (eventsIn mutexEvents tr) :=
    follow_of_accepts ha
  have hpath := Custody.path_of_sound (hend ▸ h.sound) addr
  rw [← hend] at hpath
  exact hpath

/-- **Mutexes.** From a creation that succeeds, through passes and messages in any order, to the end
of the deletion, what happens to each mutex is a path of the automaton from raw memory to raw
memory: it is initialised once before anything else, locks and unlocks take turns, and it is
destroyed once, while nobody holds it. In front of the deletion the record of each client points to
one that is initialised and free. -/
theorem server_mutexes_destroyed {tr tr' : Trace posix} {t t' : Thread (UdtcpServer m)} {u : Unit}
    {k : Mutexes} (hm : 72 * pollTableSize m ≤ 2 ^ 64) (life : ServerLife m tr t)
    (hdelete : Exec udtcpDeleteServer t tr' u t')
    (ha : mutexKernel.Accepts (.start .raw) (tr ++ tr') k) :
    (∀ addr, (eventsOf addr (eventsIn mutexEvents (tr ++ tr'))).foldlM mutexNext .raw =
      some .raw) ∧
    ∀ i, 2 ≤ i → i < t.self.pollNfds →
      (eventsOf (t.self.infos i).send (eventsIn mutexEvents tr)).foldlM mutexNext .raw =
        some .free := by
  obtain ⟨k₁, hlife, hdel⟩ := mutexKernel.accepts_append.mp ha
  have guards : Guards t.self k₁ := (lifeRules_mutexes hm).of_life life hlife
  constructor
  · intro addr
    have hready : k.Ready [] := must_udtcpDeleteServer_mutexes hm guards _ _ _ _ hdelete hdel
    have hpath := path_of_ready hready ha addr
    rw [hready.state, if_neg List.not_mem_nil] at hpath
    exact hpath
  · intro i hlow hi
    have hpath := path_of_ready guards.ready hlife (t.self.infos i).send
    rw [guards.ready.state_of_mem (guards.seated i hlow hi)] at hpath
    exact hpath

end

/-! ### A visit with a message -/

private theorem answerFits_of_visit {k k' : Files} {c : Call} {r : c.Reply}
    (h : visit.kernel k c r k') : AnswerFits c r := by
  obtain ⟨r', hr, heq⟩ := Option.map_eq_some_iff.mp h
  obtain ⟨rfl, rfl⟩ := Prod.mk.inj heq
  cases c with
  | gethostbyaddr key =>
    obtain rfl := (Option.some.inj hr).symm
    trivial
  | _ => trivial

private theorem answersFit_of_visit {k k' : Files} {tr : Trace posix}
    (ha : visit.kernel.Accepts k tr k') : ∀ e ∈ tr, AnswerFits e.call e.reply := by
  induction tr generalizing k with
  | nil => exact List.forall_mem_nil _
  | cons e tr ih =>
    obtain ⟨k₁, hstep, hrest⟩ := ha
    exact List.forall_mem_cons.mpr ⟨answerFits_of_visit hstep, ih hrest⟩

/-- The mutex of the client, which is sent one message. -/
theorem server_mutexes_destroyed_visit : ∃ (tr tr' : Trace posix) (t : Thread (UdtcpServer 1)),
    2 < t.self.pollNfds ∧
    eventsOf (t.self.infos 2).send (eventsIn mutexEvents (tr ++ tr')) =
      [.initialized, .locked, .unlocked, .destroyed] ∧
    (eventsOf (t.self.infos 2).send (eventsIn mutexEvents (tr ++ tr'))).foldlM mutexNext .raw =
      some .raw ∧
    (eventsOf (t.self.infos 2).send (eventsIn mutexEvents tr)).foldlM mutexNext .raw =
      some .free := by
  have hrun : ((visit.run (udtcpCreateServer (m := 1) [] 0 0 0 ⟨.other 0, .zero 0⟩)
      (.start none)).bind fun o₀ ↦ (visit.run (udtcpServerPoll 4 0 o₀.2.1.2) o₀.2.2).bind
      fun o₁ ↦ (visit.run (Request.run ⟨o₁.2.1.2.self.infos 2, false, ⟨[1], by decide⟩⟩ o₁.2.1.2)
        o₁.2.2).bind
      fun o₂ ↦ (visit.run (udtcpDeleteServer o₂.2.1.2) o₂.2.2).map
      fun o₃ ↦ (o₀.2.1.1, decide (2 < o₁.2.1.2.self.pollNfds ∧ 2 < o₂.2.1.2.self.pollNfds ∧
        eventsOf (o₂.2.1.2.self.infos 2).send
          (eventsIn mutexEvents (((o₀.1 ++ o₁.1) ++ o₂.1) ++ o₃.1)) =
            [.initialized, .locked, .unlocked, .destroyed]))) = some (0, true) := by
    decide +kernel
  obtain ⟨⟨tr₀, ⟨n, t₀⟩, k₀⟩, h₀, hrun⟩ := Option.bind_eq_some_iff.mp hrun
  obtain ⟨⟨tr₁, ⟨result, t₁⟩, k₁⟩, h₁, hrun⟩ := Option.bind_eq_some_iff.mp hrun
  obtain ⟨⟨tr₂, ⟨sent, t₂⟩, k₂⟩, h₂, hrun⟩ := Option.bind_eq_some_iff.mp hrun
  obtain ⟨⟨tr₃, ⟨u, t₃⟩, k₃⟩, h₃, hrun⟩ := Option.map_eq_some_iff.mp hrun
  obtain ⟨hn, hfacts⟩ := Prod.mk.inj hrun
  obtain rfl : n = 0 := hn
  obtain ⟨hcreate, ha₀⟩ := (visit.run_eq_some_iff _ _ _ _ _).mp h₀
  obtain ⟨hpass, ha₁⟩ := (visit.run_eq_some_iff _ _ _ _ _).mp h₁
  obtain ⟨hsend, ha₂⟩ := (visit.run_eq_some_iff _ _ _ _ _).mp h₂
  obtain ⟨hdelete, ha₃⟩ := (visit.run_eq_some_iff _ _ _ _ _).mp h₃
  obtain ⟨hlive, hkept, hevents⟩ := of_decide_eq_true hfacts
  have hlife : ServerLife 1 ((tr₀ ++ tr₁) ++ tr₂) t₂ :=
    .send (.pass (.create hcreate) hpass) (Nat.le_refl 2) hlive rfl hsend
  have ha : visit.kernel.Accepts (.start none) (((tr₀ ++ tr₁) ++ tr₂) ++ tr₃) k₃ := by
    simp only [visit.kernel.accepts_append]
    exact ⟨k₂, ⟨k₁, ⟨k₀, ha₀, ha₁⟩, ha₂⟩, ha₃⟩
  obtain ⟨hdestroyed, hseated⟩ := server_mutexes_destroyed (by decide) hlife hdelete
    (accepts_follow fun e he _ ↦ answersFit_of_visit ha e he)
  exact ⟨_, tr₃, t₂, hkept, hevents, hdestroyed _, hseated 2 (Nat.le_refl 2) hkept⟩

end Udtcp
