import Udtcp.Creation.Deeds
import Udtcp.Creation.Stages

/-!
# What a failed creation leaves behind

The failure exits of `udtcp_create_server` (`create_server.c:64–230`) and of `udtcp_create_client`
(`create_client.c:59–230`), with the deletion functions the later ones go through.
-/

namespace Udtcp

open Interaction Routine

/-! ### The stages both roles share -/

section

variable {τ : Type} {t : Thread τ} {ds : List Deed} {base : List Holding} {I : τ → Prop}

private theorem Pending.opened {fds : List Fd} (h : Pending (base ++ descriptors fds) ds)
    (fd : Fd) :
    Pending (base ++ descriptors (fds ++ [fd])) (ds ++ [.acquired (.descriptor fd)]) := by
  have hacquired := h.acquire [.descriptor fd]
  rw [List.append_assoc] at hacquired
  rw [descriptors, List.map_append]
  exact hacquired

private theorem must_deeds_openingSockets (base : List Holding) {note₁ note₂ note₃ : Fd → τ → τ}
    {release : List Fd → Proc τ Int} {rest : Proc τ Int}
    (hnote : ∀ fd s, I s → I (note₁ fd s) ∧ I (note₂ fd s))
    (hrelease : ∀ opened t' ds', I t'.self → Pending (base ++ descriptors opened) ds' →
      Must (written deedOf) (release opened) t' (ds' ++ [.failed]) fun n _ ds ↦ Concludes n ds)
    (hrest : ∀ (tcp udp other : Descriptor) t' ds',
      t'.self = note₃ other.val (note₂ udp.val (note₁ tcp.val t.self)) →
      Pending (base ++ descriptors [tcp.val, udp.val, other.val]) ds' →
      Must (written deedOf) rest t' ds' fun n _ ds ↦ Concludes n ds)
    (ht : I t.self) (h : Pending (base ++ descriptors []) ds) :
    Must (written deedOf) (openingSockets note₁ note₂ note₃ release rest) t ds
      fun n _ ds ↦ Concludes n ds := by
  unfold openingSockets
  refine must_written_syscall fun tcp ↦ ?_
  cases tcp with
  | error e => exact hrelease _ _ _ ht h
  | ok tcp =>
    have h₁ := h.opened tcp.val
    have ht₁ := (hnote tcp.val _ ht).1
    refine must_update_bind (must_written_syscall fun udp ↦ ?_)
    cases udp with
    | error e => exact hrelease _ _ _ ht₁ h₁
    | ok udp =>
      have h₂ := h₁.opened udp.val
      have ht₂ := (hnote udp.val _ ht₁).2
      refine must_update_bind (must_written_syscall fun other ↦ ?_)
      cases other with
      | error e => exact hrelease _ _ _ ht₂ h₂
      | ok other => exact must_update_bind (hrest tcp udp other _ _ rfl (h₂.opened other.val))

private theorem must_deeds_bindingSockets {own : OwnInfos τ} {abandon rest : Proc τ Int}
    {host : Hostent} {p q r : UInt16}
    (hmodify : ∀ f s, (∀ r : UdtcpInfos, (f r).tcpSocket = r.tcpSocket ∧
      (f r).udpServerSocket = r.udpServerSocket ∧ (f r).udpClientSocket = r.udpClientSocket) →
      I s → I (own.modify f s))
    (habandon : ∀ t', I t'.self →
      Must (written deedOf) abandon t' (ds ++ [.failed]) fun n _ ds ↦ Concludes n ds)
    (hrest : ∀ t', I t'.self → Must (written deedOf) rest t' ds fun n _ ds ↦ Concludes n ds)
    (ht : I t.self) :
    Must (written deedOf) (bindingSockets own abandon rest host p q r) t ds
      fun n _ ds ↦ Concludes n ds := by
  unfold bindingSockets
  have h₁ := hmodify (fun r ↦ { r with tcpAddr := bindAddr host.addr p }) _
    (fun _ ↦ ⟨rfl, rfl, rfl⟩) ht
  refine must_update_bind (must_self_bind (must_self_bind ?_))
  refine must_tried_bindSocket (fun name₁ ↦ ?_) fun t' ht' ↦ habandon t' (ht' ▸ h₁)
  have h₂ := hmodify (fun r ↦ { r with
    tcpAddr := name₁
    udpServerAddr := bindAddr host.addr q }) _ (fun _ ↦ ⟨rfl, rfl, rfl⟩) h₁
  refine must_update_bind (must_self_bind (must_self_bind ?_))
  refine must_tried_bindSocket (fun name₂ ↦ ?_) fun t' ht' ↦ habandon t' (ht' ▸ h₂)
  have h₃ := hmodify (fun s ↦ { s with
    udpServerAddr := name₂
    udpClientAddr := bindAddr host.addr r }) _ (fun _ ↦ ⟨rfl, rfl, rfl⟩) h₂
  refine must_update_bind (must_self_bind (must_self_bind ?_))
  refine must_tried_bindSocket (fun name₃ ↦ ?_) fun t' ht' ↦ habandon t' (ht' ▸ h₃)
  exact must_update_bind (hrest _ (hmodify (fun r ↦ { r with udpClientAddr := name₃ }) _
    (fun _ ↦ ⟨rfl, rfl, rfl⟩) h₃))

end

/-! ### Servers -/

section

variable {m : Nat} {α : Type} {t : Thread (UdtcpServer m)} {ds : List Deed}
  {Q : α → Thread (UdtcpServer m) → List Deed → Prop}

namespace Server

/-- The mutexes of the send structures with indices `is`. -/
def mutexes (s : UdtcpServer m) (is : List Nat) : List Holding :=
  is.map fun i ↦ .mutex (s.sendAddr i)

/-- All send mutexes of a server. -/
def allMutexes (s : UdtcpServer m) : List Holding := mutexes s (List.range' 2 (pollTableSize m - 2))

private theorem mutexes_congr {s s' : UdtcpServer m} (h : s'.addr = s.addr) (is : List Nat) :
    mutexes s' is = mutexes s is := by
  unfold mutexes UdtcpServer.sendAddr
  rw [h]

/-- A server under construction with its sockets open, at the address of `s₀`. -/
structure Opened (s₀ s : UdtcpServer m) (tcp udpServer udpClient : Fd) : Prop where
  addr : s.addr = s₀.addr
  pollNfds : s.pollNfds = 2
  tcpSocket : s.serverInfos.tcpSocket = tcp
  udpServerSocket : s.serverInfos.udpServerSocket = udpServer
  udpClientSocket : s.serverInfos.udpClientSocket = udpClient

/-- Changes of other fields of `server_infos`. -/
theorem Opened.modify {s₀ s : UdtcpServer m} {tcp udpServer udpClient : Fd}
    (h : Opened s₀ s tcp udpServer udpClient) {f : UdtcpInfos → UdtcpInfos}
    (htcp : ∀ r, (f r).tcpSocket = r.tcpSocket)
    (hserver : ∀ r, (f r).udpServerSocket = r.udpServerSocket)
    (hclient : ∀ r, (f r).udpClientSocket = r.udpClientSocket) :
    Opened s₀ (s.modifyServerInfos f) tcp udpServer udpClient := by
  have h₀ : (s.modifyServerInfos f).serverInfos = f s.serverInfos := s.infos_modifyInfos_self 0 f
  refine ⟨h.addr, h.pollNfds, ?_, ?_, ?_⟩
  · rw [h₀, htcp, h.tcpSocket]
  · rw [h₀, hserver, h.udpServerSocket]
  · rw [h₀, hclient, h.udpClientSocket]

private theorem must_clearSends {s : UdtcpServer m} {is : List Nat} {f : Unit → ServerProc m α}
    (h : Must (written deedOf) (f ()) t ds Q) :
    Must (written deedOf) (clearSends s is >>= f) t ds Q := by
  refine must_bind ?_
  induction is with
  | nil => exact must_pure h
  | cons i is ih =>
    unfold clearSends
    refine must_written_issue fun r ↦ ?_
    rw [show deedOf (.storeSend (s.sendAddr i) .zero) r = none from rfl, Option.toList_none,
      List.append_nil]
    exact ih

private theorem must_destroyMutexes {s : UdtcpServer m} {is : List Nat} {f : Unit → ServerProc m α}
    (h : Must (written deedOf) (f ()) t (ds ++ (mutexes s is).map .released) Q) :
    Must (written deedOf) (destroyMutexes s is >>= f) t ds Q := by
  refine must_bind ?_
  induction is generalizing ds with
  | nil =>
    rw [mutexes, List.map_nil, List.map_nil, List.append_nil] at h
    exact must_pure h
  | cons i is ih =>
    unfold destroyMutexes
    refine must_written_issue fun r ↦ ih ?_
    rw [List.append_assoc]
    exact h

private theorem must_releaseSends {s : UdtcpServer m} {is : List Nat} {f : Unit → ServerProc m α}
    (h : Must (written deedOf) (f ()) t (ds ++ (mutexes s is).map .released) Q) :
    Must (written deedOf) (releaseSends s is >>= f) t ds Q := by
  refine must_bind ?_
  induction is generalizing ds with
  | nil =>
    rw [mutexes, List.map_nil, List.map_nil, List.append_nil] at h
    exact must_pure h
  | cons i is ih =>
    unfold releaseSends
    refine must_unviewed_bind (emits_perform fun _ ↦ rfl) ?_
    rintro tr send t' hrun
    obtain ⟨-, rfl⟩ := exec_request.mp hrun
    refine must_freeIf (must_written_issue fun r ↦ ih ?_)
    rw [List.append_assoc]
    exact h

private theorem must_udtcpDeleteServer {s₀ : UdtcpServer m} {tcp udpServer udpClient : Descriptor}
    (hs : Opened s₀ t.self tcp.val udpServer.val udpClient.val) {f : Unit → ServerProc m α}
    (h : ∀ t', Must (written deedOf) (f ()) t' (ds ++ (descriptors [tcp.val, udpServer.val,
      udpClient.val] ++ allMutexes s₀ ++ [Holding.object]).map .released) Q) :
    Must (written deedOf) (udtcpDeleteServer >>= f) t ds Q := by
  have hnone : t.self.pollNfds - 2 = 0 := by rw [hs.pollNfds]
  refine must_bind ?_
  unfold udtcpDeleteServer
  refine must_self_bind ?_
  rw [hs.tcpSocket, hs.udpServerSocket, hs.udpClientSocket, hnone]
  refine must_closeOpen tcp.property fun t₁ _ ↦ must_closeOpen udpServer.property fun t₂ _ ↦ ?_
  refine must_closeOpen udpClient.property fun t₃ _ ↦ must_releaseSends ?_
  refine must_bind (must_pure (must_freeIf ?_))
  refine must_issue fun r ds' hds ↦ ?_
  have hall : mutexes t.self (List.range' 2 (pollTableSize m - 2)) = allMutexes s₀ :=
    mutexes_congr hs.addr _
  have hseen : ds' = ds ++ (descriptors [tcp.val, udpServer.val, udpClient.val] ++
      allMutexes s₀ ++ [Holding.object]).map .released := by
    rw [hds, hall]
    simp [deedOf, descriptors]
  rw [hseen]
  exact h t₃

/-- What a server holds from its last socket on. -/
def holdings (s₀ : UdtcpServer m) (fds : List Fd) : List Holding :=
  Holding.object :: allMutexes s₀ ++ descriptors fds

section

variable {s₀ : UdtcpServer m} {tcp udpServer udpClient : Descriptor}

private theorem must_abandonClean (hs : Opened s₀ t.self tcp.val udpServer.val udpClient.val)
    (h : Pending (holdings s₀ [tcp.val, udpServer.val, udpClient.val]) ds) :
    Must (written deedOf) abandon t (ds ++ [.failed]) fun n _ ds' ↦ Concludes n ds' := by
  refine must_udtcpDeleteServer hs fun t' ↦ must_pure ?_
  rw [List.append_assoc]
  refine h.giveUp _ ?_
  have hperm : (descriptors [tcp.val, udpServer.val, udpClient.val] ++ allMutexes s₀).Perm
      (allMutexes s₀ ++ descriptors [tcp.val, udpServer.val, udpClient.val]) :=
    List.perm_append_comm
  exact List.perm_append_comm.trans (hperm.cons _)

private theorem must_finishServerClean
    (h : Pending (holdings s₀ [tcp.val, udpServer.val, udpClient.val]) ds) :
    Must (written deedOf) finishServer t ds fun n _ ds' ↦ Concludes n ds' := by
  have hcopy (offset : Nat) (text : List UInt8) :
      Emits (Unviewed deedOf) (copyText offset text) :=
    .ite (emits_update _) fun _ _ _ _ h ↦ (exec_crash h).elim
  have htext (addr : UdtcpInfos → SockaddrIn) :
      Emits (Unviewed deedOf) (udtcpSetStringInfos addr) := by
    refine emits_self.bind fun r ↦ Emits.bind (emits_perform fun _ ↦ rfl) fun name ↦ ?_
    cases name with
    | none => exact emits_self.bind fun r ↦ (hcopy _ _).bind fun _ ↦ hcopy _ _
    | some text => exact (hcopy _ _).bind fun _ ↦ emits_self.bind fun r ↦ hcopy _ _
  unfold finishServer
  refine must_update_bind (must_bind (must_onPart ?_))
  exact must_unviewed (htext _) fun _ _ _ _ ↦ must_update_bind
    (must_pure (by simpa using h.done []))

private theorem must_listenServerClean (hs : Opened s₀ t.self tcp.val udpServer.val udpClient.val)
    (h : Pending (holdings s₀ [tcp.val, udpServer.val, udpClient.val]) ds) :
    Must (written deedOf) listenServer t ds fun n _ ds' ↦ Concludes n ds' := by
  unfold listenServer
  have hports := hs.modify (f := fun r ↦ { r with
    tcpPort := htons r.tcpAddr.sinPort
    udpServerPort := htons r.udpServerAddr.sinPort
    udpClientPort := htons r.udpClientAddr.sinPort }) (fun _ ↦ rfl) (fun _ ↦ rfl) fun _ ↦ rfl
  have hgone (t' : Thread (UdtcpServer m))
      (ht' : t'.self = t.self.modifyServerInfos fun r ↦ { r with
      tcpPort := htons r.tcpAddr.sinPort
      udpServerPort := htons r.udpServerAddr.sinPort
      udpClientPort := htons r.udpClientAddr.sinPort }) :
      Must (written deedOf) abandon t' (ds ++ [.failed]) fun n _ ds' ↦ Concludes n ds' :=
    must_abandonClean (ht' ▸ hports) h
  refine must_update_bind (must_self_bind ?_)
  refine must_tried_syscall (fun _ ↦ rfl) (fun _ ↦ rfl) (fun _ ↦ ?_) fun _ t' ht' ↦ hgone t' ht'
  refine must_self_bind (must_tried_addOption ?_ fun t' ht' ↦ must_ite (fun _ ↦ hgone t' ht') ?_)
  · refine must_ite (fun hfail ↦ by cases hfail) fun _ ↦ must_self_bind (must_tried_addOption ?_ ?_)
    · exact must_ite (fun hfail ↦ by cases hfail) fun _ ↦ must_finishServerClean h
    · exact fun t' ht' ↦ must_ite (fun _ ↦ hgone t' ht') fun hne ↦ absurd rfl hne
  · exact fun hne ↦ absurd rfl hne

private theorem must_bindSocketsClean {host : Hostent} {p q r : UInt16}
    (hs : Opened s₀ t.self tcp.val udpServer.val udpClient.val)
    (h : Pending (holdings s₀ [tcp.val, udpServer.val, udpClient.val]) ds) :
    Must (written deedOf) (bindSockets host p q r) t ds fun n _ ds' ↦ Concludes n ds' := by
  rw [bindSockets_eq]
  exact must_deeds_bindingSockets
    (I := fun s : UdtcpServer m ↦ Opened s₀ s tcp.val udpServer.val udpClient.val)
    (fun _ _ hf hs ↦ hs.modify (hf · |>.1) (hf · |>.2.1) (hf · |>.2.2))
    (fun _ hs ↦ must_abandonClean hs h) (fun _ hs ↦ must_listenServerClean hs h) hs

end

private theorem must_releaseServerClean {s₀ : UdtcpServer m} {opened : List Fd}
    (haddr : t.self.addr = s₀.addr) (h : Pending (holdings s₀ opened) ds) :
    Must (written deedOf) (releaseServer opened) t (ds ++ [.failed])
      fun n _ ds' ↦ Concludes n ds' := by
  unfold releaseServer
  refine must_self_bind (must_destroyMutexes (must_closeDescriptors fun t' _ ↦ ?_))
  refine must_written_issue fun r ↦ ?_
  refine must_pure ?_
  have hall : mutexes t.self (List.range' 2 (pollTableSize m - 2)) = allMutexes s₀ :=
    mutexes_congr haddr _
  have hgiven := h.giveUp (allMutexes s₀ ++ descriptors opened ++ [.object])
    List.perm_append_comm
  rw [hall]
  simpa [deedOf] using hgiven

private theorem must_openSocketsClean {s₀ : UdtcpServer m} {host : Hostent} {p q r : UInt16}
    (haddr : t.self.addr = s₀.addr) (h : Pending (holdings s₀ []) ds) :
    Must (written deedOf) (openSockets host p q r) t ds fun n _ ds' ↦ Concludes n ds' := by
  rw [openSockets_eq]
  refine must_deeds_openingSockets (Holding.object :: allMutexes s₀)
    (I := fun s : UdtcpServer m ↦ s.addr = s₀.addr) (fun _ _ hs ↦ ⟨hs, hs⟩)
    (fun _ _ _ hs h ↦ must_releaseServerClean hs h) (fun tcp udp other t' ds' ht' h' ↦ ?_) haddr h
  refine must_bindSocketsClean (?_ : Opened s₀ _ tcp.val udp.val other.val) h'
  rw [ht']
  exact ⟨haddr, rfl, rfl, rfl, rfl⟩

private theorem must_initMutexes {s : UdtcpServer m} {is : List Nat}
    {f : Option Nat → ServerProc m α}
    (hall : Must (written deedOf) (f none) t (ds ++ (mutexes s is).map .acquired) Q)
    (hfail : ∀ before i after, is = before ++ i :: after → Must (written deedOf) (f (some i)) t
      (ds ++ (mutexes s before).map .acquired ++ [.mutexFailed]) Q) :
    Must (written deedOf) (initMutexes s is >>= f) t ds Q := by
  refine must_bind ?_
  induction is generalizing ds with
  | nil =>
    rw [mutexes, List.map_nil, List.map_nil, List.append_nil] at hall
    exact must_pure hall
  | cons i is ih =>
    unfold initMutexes
    refine must_written_request fun ok ↦ ?_
    cases ok with
    | false =>
      refine must_ite (fun h ↦ by cases h) fun _ ↦ must_pure ?_
      simpa [mutexes, deedOf] using hfail [] i is rfl
    | true =>
      refine must_ite (fun _ ↦ ih ?_ fun before j after his ↦ ?_) fun h ↦ absurd rfl h
      · rw [List.append_assoc]
        exact hall
      · have h := hfail (i :: before) j after (congrArg (i :: ·) his)
        simpa [mutexes, deedOf] using h

/-- What a creation comes to whose mutexes `before` the failed one are initialised: the first of
them is forgotten. -/
structure RolledBack (n : Int) (ds : List Deed) : Prop where
  fails : Fails ds
  result : n = -1
  cleansUp_iff : CleansUp n ds ↔ ¬ Orphans ds

private theorem must_rollBack {s : UdtcpServer m} {before after : List Nat} {i : Nat}
    (hi : List.range' 2 (pollTableSize m - 2) = before ++ i :: after) :
    Must (written deedOf) (do
      destroyMutexes s (List.range' 3 (i - 3)).reverse
      issue .freeServer
      return (-1 : Int)) t
      ([.acquired .object] ++ (mutexes s before).map .acquired ++ [.mutexFailed])
      fun n _ ds' ↦ RolledBack n ds' := by
  have hlen : i = 2 + before.length := by
    have hget := congrArg (·[before.length]?) hi
    simp only [List.getElem?_append_right (Nat.le_refl _), Nat.sub_self,
      List.getElem?_cons_zero] at hget
    obtain ⟨_, hget⟩ := List.getElem?_eq_some_iff.mp hget
    rw [List.getElem_range'] at hget
    omega
  refine must_destroyMutexes (must_written_issue fun r ↦ must_pure ?_)
  have hcount : (List.range' 3 (i - 3)).reverse.length = before.length - 1 := by
    rw [List.length_reverse, List.length_range']
    omega
  generalize (List.range' 3 (i - 3)).reverse = back at hcount ⊢
  refine ⟨by simp [Fails], rfl, ?_⟩
  cases before with
  | nil =>
    obtain rfl : back = [] := List.length_eq_zero_iff.mp hcount
    refine iff_of_true ⟨rfl, List.Perm.refl _, by simp [mutexes, deedOf]⟩ ?_
    rintro ⟨-, addr, haddr⟩
    simp [mutexes, deedOf] at haddr
  | cons b bs =>
    refine iff_of_false (fun hclean ↦ ?_) (not_not.mpr ⟨by simp, s.sendAddr b, by simp [mutexes]⟩)
    have hlength := hclean.balanced.length_eq
    have hreleased : (released ([.acquired .object] ++ (mutexes s (b :: bs)).map .acquired ++
        [.mutexFailed] ++ (mutexes s back).map .released ++
        (deedOf .freeServer r).toList)).length = back.length + 1 := by
      simp only [released_append, released_map_acquired, released_map_released, List.length_append]
      simp [released, deedOf, mutexes]
    have hacquired : (acquired ([.acquired .object] ++ (mutexes s (b :: bs)).map .acquired ++
        [.mutexFailed] ++ (mutexes s back).map .released ++
        (deedOf .freeServer r).toList)).length = bs.length + 2 := by
      simp only [acquired_append, acquired_map_acquired, acquired_map_released, List.length_append]
      simp [acquired, deedOf, mutexes]
      omega
    rw [List.length_cons] at hcount
    omega

end Server

private theorem pending_nil : Pending [] [] := ⟨rfl, rfl, by simp [Fails], List.not_mem_nil⟩

/-- **Creation of a server** that fails releases what it holds, unless it fails at its mutexes. -/
theorem must_udtcpCreateServer_clean {hostname : List UInt8} {p q r : UInt16} :
    Must (written deedOf) (udtcpCreateServer hostname p q r) t [] fun n _ ds ↦
      Concludes n ds ∨ Server.RolledBack n ds := by
  unfold udtcpCreateServer
  refine must_written_request fun host ↦ ?_
  cases host with
  | none => exact must_setErrno_bind (must_pure (.inl (pending_nil.giveUp [] (.refl _))))
  | some host =>
    refine must_written_syscall fun addr ↦ ?_
    cases addr with
    | error e => exact must_pure (.inl (pending_nil.giveUp [] (.refl _)))
    | ok addr =>
      refine must_update_bind (must_self_bind (Server.must_clearSends ?_))
      refine Server.must_initMutexes ?_ fun before i after his ↦ ?_
      · have hpending : Pending (Server.holdings (.zero addr : UdtcpServer m) [])
            ([.acquired .object] ++ (Server.allMutexes (.zero addr : UdtcpServer m)).map
              .acquired) := by
          have h := (pending_nil.acquire [.object]).acquire
            (Server.allMutexes (.zero addr : UdtcpServer m))
          simpa [Server.holdings, descriptors] using h
        exact (Server.must_openSocketsClean rfl hpending).mono fun _ _ _ h ↦ .inl h
      · exact (Server.must_rollBack his).mono fun _ _ _ h ↦ .inr h

end

/-! ### Clients -/

section

variable {α : Type} {t : Thread UdtcpClient} {ds : List Deed}
  {Q : α → Thread UdtcpClient → List Deed → Prop}

namespace Client

/-- A client under construction with its sockets open and no callback, at address `addr`. -/
structure Opened (addr : UInt64) (c : UdtcpClient) (tcp udpServer udpClient : Fd) : Prop where
  sendAddr : c.sendAddr = addr
  tcpSocket : c.clientInfos.tcpSocket = tcp
  udpServerSocket : c.clientInfos.udpServerSocket = udpServer
  udpClientSocket : c.clientInfos.udpClientSocket = udpClient
  disconnectCallback : c.disconnectCallback = false

/-- What a client holds from its mutex on. -/
def holdings (addr : UInt64) (fds : List Fd) : List Holding :=
  Holding.object :: Holding.mutex addr :: descriptors fds

section

variable {addr : UInt64} {tcp udpServer udpClient : Descriptor}

private theorem must_abandonClean (hc : Opened addr t.self tcp.val udpServer.val udpClient.val)
    (h : Pending (holdings addr [tcp.val, udpServer.val, udpClient.val]) ds) :
    Must (written deedOf) abandon t (ds ++ [.failed]) fun n _ ds' ↦ Concludes n ds' := by
  have hperm : (descriptors [tcp.val, udpServer.val, udpClient.val] ++ [Holding.mutex addr]).Perm
      (Holding.mutex addr :: descriptors [tcp.val, udpServer.val, udpClient.val]) :=
    List.perm_append_comm
  have hdone := h.giveUp (descriptors [tcp.val, udpServer.val, udpClient.val] ++
    [.mutex addr] ++ [.object]) (List.perm_append_comm.trans (hperm.cons _))
  refine must_bind ?_
  unfold udtcpDeleteClient
  refine must_self_bind ?_
  rw [hc.tcpSocket, hc.udpServerSocket, hc.udpClientSocket, hc.disconnectCallback, hc.sendAddr]
  refine must_unviewed_bind (.ite ((emits_syscall fun _ ↦ rfl).bind fun _ ↦ emits_pure _)
    (emits_pure _)) fun _ _ t₁ _ ↦ ?_
  refine must_closeOpen tcp.property fun t₂ _ ↦ must_closeOpen udpServer.property fun t₃ _ ↦ ?_
  refine must_closeOpen udpClient.property fun t₄ _ ↦ ?_
  refine must_ite (fun hcb ↦ absurd hcb.2 (by decide)) fun _ ↦ must_freeIf ?_
  refine must_unviewed_bind (emits_perform fun _ ↦ rfl) fun _ send t₅ _ ↦ must_freeIf ?_
  refine must_written_issue fun r ↦ must_issue fun r' ds' hds ↦ must_pure ?_
  rw [hds]
  simpa [deedOf, descriptors] using hdone

private theorem must_finishClientClean {host : Hostent}
    (h : Pending (holdings addr [tcp.val, udpServer.val, udpClient.val]) ds) :
    Must (written deedOf) (finishClient host) t ds fun n _ ds' ↦ Concludes n ds' := by
  have hcopy (offset : Nat) (text : List UInt8) :
      Emits (Unviewed deedOf) (copyText offset text) :=
    .ite (emits_update _) fun _ _ _ _ h ↦ (exec_crash h).elim
  unfold finishClient
  refine must_update_bind (must_update_bind (must_bind (must_onPart ?_)))
  refine must_unviewed ((hcopy _ _).bind fun _ ↦ emits_self.bind fun _ ↦ hcopy _ _) fun _ _ _ _ ↦ ?_
  exact must_update_bind (must_self_bind (must_written_syscall fun r ↦ must_pure (h.done [_])))

private theorem must_unblockSocketsClean {host : Hostent}
    (hc : Opened addr t.self tcp.val udpServer.val udpClient.val)
    (h : Pending (holdings addr [tcp.val, udpServer.val, udpClient.val]) ds) :
    Must (written deedOf) (unblockSockets host) t ds fun n _ ds' ↦ Concludes n ds' := by
  unfold unblockSockets
  refine must_update_bind (must_self_bind (must_tried_addOption ?_ fun t' ht' ↦ ?_))
  · refine must_ite (fun hfail ↦ by cases hfail) fun _ ↦ must_self_bind (must_tried_addOption ?_ ?_)
    · exact must_ite (fun hfail ↦ by cases hfail) fun _ ↦ must_finishClientClean h
    · intro t' ht'
      refine must_ite (fun _ ↦ must_abandonClean ?_ h) fun hne ↦ absurd rfl hne
      rw [ht']
      exact ⟨hc.1, hc.2, hc.3, hc.4, hc.5⟩
  · refine must_ite (fun _ ↦ must_abandonClean ?_ h) fun hne ↦ absurd rfl hne
    rw [ht']
    exact ⟨hc.1, hc.2, hc.3, hc.4, hc.5⟩

private theorem must_bindSocketsClean {host : Hostent} {p q r : UInt16}
    (hc : Opened addr t.self tcp.val udpServer.val udpClient.val)
    (h : Pending (holdings addr [tcp.val, udpServer.val, udpClient.val]) ds) :
    Must (written deedOf) (bindSockets host p q r) t ds fun n _ ds' ↦ Concludes n ds' := by
  rw [bindSockets_eq]
  refine must_deeds_bindingSockets
    (I := fun c : UdtcpClient ↦ Opened addr c tcp.val udpServer.val udpClient.val)
    (fun f c hf hc ↦ ?_) (fun _ hc ↦ must_abandonClean hc h)
    (fun _ hc ↦ must_unblockSocketsClean hc h) hc
  obtain ⟨htcp, hserver, hclient⟩ := hf c.clientInfos
  exact ⟨hc.sendAddr, htcp.trans hc.tcpSocket, hserver.trans hc.udpServerSocket,
    hclient.trans hc.udpClientSocket, hc.disconnectCallback⟩

private theorem must_setReuseClean {host : Hostent} {p q r : UInt16}
    (hc : Opened addr t.self tcp.val udpServer.val udpClient.val)
    (h : Pending (holdings addr [tcp.val, udpServer.val, udpClient.val]) ds) :
    Must (written deedOf) (setReuse host p q r) t ds fun n _ ds' ↦ Concludes n ds' := by
  unfold setReuse
  refine must_self_bind (must_tried_setOptions ?_ fun t' ht' ↦ ?_)
  · refine must_ite (fun _ ↦ must_tried_setOptions ?_ fun t' ht' ↦ ?_) fun hne ↦ absurd rfl hne
    · exact must_ite (fun _ ↦ must_bindSocketsClean hc h) fun hne ↦ absurd rfl hne
    · exact must_ite (fun hok ↦ by cases hok) fun _ ↦ must_abandonClean (ht' ▸ hc) h
  · exact must_ite (fun hok ↦ by cases hok) fun _ ↦ must_abandonClean (ht' ▸ hc) h

end

private theorem must_releaseClientClean {addr : UInt64} {opened : List Fd}
    (haddr : t.self.sendAddr = addr) (h : Pending (holdings addr opened) ds) :
    Must (written deedOf) (releaseClient opened) t (ds ++ [.failed])
      fun n _ ds' ↦ Concludes n ds' := by
  subst haddr
  have hdone := h.giveUp ((Holding.mutex t.self.sendAddr :: descriptors opened) ++ [.object])
    List.perm_append_comm
  unfold releaseClient
  refine must_self_bind (must_written_request fun r ↦ must_closeDescriptors fun t' _ ↦ ?_)
  refine must_written_issue fun r' ↦ must_pure ?_
  simpa [deedOf] using hdone

private theorem must_openSocketsClean {addr : UInt64} {host : Hostent} {p q r : UInt16}
    (haddr : t.self.sendAddr = addr) (hcb : t.self.disconnectCallback = false)
    (h : Pending (holdings addr []) ds) :
    Must (written deedOf) (openSockets host p q r) t ds fun n _ ds' ↦ Concludes n ds' := by
  rw [openSockets_eq]
  refine must_deeds_openingSockets [.object, .mutex addr]
    (I := fun c : UdtcpClient ↦ c.sendAddr = addr) (fun _ _ hc ↦ ⟨hc, hc⟩)
    (fun _ _ _ hc h ↦ must_releaseClientClean hc h) (fun tcp udp other t' ds' ht' h' ↦ ?_) haddr h
  refine must_setReuseClean (?_ : Opened addr _ tcp.val udp.val other.val) h'
  rw [ht']
  exact ⟨haddr, rfl, rfl, rfl, hcb⟩

end Client

/-- **Creation of a client** that fails releases what it holds. -/
theorem must_udtcpCreateClient_clean {hostname : List UInt8} {p q r : UInt16} :
    Must (written deedOf) (udtcpCreateClient hostname p q r) t [] fun n _ ds ↦
      (Fails ds ↔ n = -1) ∧ (Fails ds → CleansUp n ds) := by
  have hconcludes {n : Int} {ds : List Deed} (h : Concludes n ds) :
      (Fails ds ↔ n = -1) ∧ (Fails ds → CleansUp n ds) :=
    ⟨h.fails, fun hfails ↦ h.cleansUp (h.fails.mp hfails)⟩
  unfold udtcpCreateClient
  refine must_written_request fun host ↦ ?_
  cases host with
  | none =>
    exact must_setErrno_bind (must_pure (hconcludes (pending_nil.giveUp [] (.refl _))))
  | some host =>
    refine must_written_syscall fun addr ↦ ?_
    cases addr with
    | error e => exact must_pure (hconcludes (pending_nil.giveUp [] (.refl _)))
    | ok addr =>
      refine must_update_bind (must_self_bind (must_written_issue fun _ ↦ ?_))
      refine must_written_request fun ok ↦ ?_
      cases ok with
      | true =>
        have hpending : Pending (Client.holdings (UdtcpClient.zero addr).sendAddr [])
            [.acquired .object, .acquired (.mutex (UdtcpClient.zero addr).sendAddr)] :=
          (pending_nil.acquire [.object]).acquire [.mutex _]
        refine must_ite (fun _ ↦ ?_) fun hne ↦ absurd rfl hne
        refine Must.mono (Client.must_openSocketsClean ?_ ?_ hpending) fun _ _ _ h ↦ hconcludes h
        · rfl
        · rfl
      | false =>
        refine must_ite (fun hok ↦ by cases hok) fun _ ↦ must_written_issue fun _ ↦ must_pure ?_
        refine ⟨iff_of_true (.inl ?_) rfl, fun _ ↦ ⟨rfl, List.Perm.refl _, ?_⟩⟩
        · simp [deedOf]
        · simp [deedOf]

end

/-- **A creation that fails releases exactly what it acquired**, the client always, the server
unless a mutex could not be initialised after another one was: the roll-back forgets the first. -/
theorem failed_creation_cleans_up_iff (hostname : List UInt8) (p q r : UInt16) :
    (∀ m (t t' : Thread (UdtcpServer m)) tr n, Exec (udtcpCreateServer hostname p q r) t tr n t' →
      (Fails (deeds tr) ↔ n = -1) ∧
        (Fails (deeds tr) → (CleansUp n (deeds tr) ↔ ¬ Orphans (deeds tr)))) ∧
    ∀ t t' tr n, Exec (udtcpCreateClient hostname p q r) t tr n t' →
      (Fails (deeds tr) ↔ n = -1) ∧ (Fails (deeds tr) → CleansUp n (deeds tr)) := by
  refine ⟨fun m t t' tr n h ↦ ?_, fun t t' tr n h ↦ exec_written must_udtcpCreateClient_clean h⟩
  rcases exec_written must_udtcpCreateServer_clean h with hends | hrolled
  · refine ⟨hends.fails, fun hfails ↦ iff_of_true (hends.cleansUp (hends.fails.mp hfails)) ?_⟩
    exact fun horphans ↦ hends.initialized horphans.1
  · exact ⟨iff_of_true hrolled.fails hrolled.result, fun _ ↦ hrolled.cleansUp_iff⟩

private theorem may_secondMutexFails : May (udtcpCreateServer [] 0 0 0)
    (⟨.other 0, .zero 0⟩ : Thread (UdtcpServer 2)) fun tr n _ ↦ n = -1 ∧ deeds tr =
      [.acquired .object, .acquired (.mutex ((UdtcpServer.zero 0 : UdtcpServer 2).sendAddr 2)),
        .mutexFailed, .released .object] := by
  unfold udtcpCreateServer
  refine may_request_bind (some ⟨[], 0⟩) (may_syscall_bind (.ok (0 : UInt64)) ?_)
  refine may_update_bind (may_self_bind (may_bind ?_))
  refine may_issue_bind () (may_issue_bind () (may_issue_bind () (may_issue_bind () (may_pure ?_))))
  refine may_bind (may_request_bind true (may_if_pos rfl (may_request_bind false ?_)))
  refine may_if_neg (by decide) (may_pure (may_bind (may_pure (may_issue_bind () (may_pure ?_)))))
  exact ⟨rfl, rfl⟩

/-- The failure of the second mutex, and that of the host lookup of a client, meet the
description. -/
theorem failed_creation_cleans_up_rolled_back :
    (∃ (t t' : Thread (UdtcpServer 2)) (tr : Trace posix),
      Exec (udtcpCreateServer [] 0 0 0) t tr (-1) t' ∧ Fails (deeds tr) ∧
      (CleansUp (-1) (deeds tr) ↔ ¬ Orphans (deeds tr))) ∧
    ∃ (t t' : Thread UdtcpClient) (tr : Trace posix),
      Exec (udtcpCreateClient [] 0 0 0) t tr (-1) t' ∧ CleansUp (-1) (deeds tr) := by
  obtain ⟨hserver, hclient⟩ := failed_creation_cleans_up_iff [] 0 0 0
  obtain ⟨tr, n, t', h, rfl, -⟩ := may_secondMutexFails
  have hcl : Exec (udtcpCreateClient [] 0 0 0) ⟨.other 0, .zero 0⟩ [⟨.gethostbyname [], none⟩] (-1)
      ⟨.ehostunreach, .zero 0⟩ :=
    exec_request_bind.mpr ⟨none, [], rfl, exec_setErrno_bind.mpr (exec_pure.mpr ⟨rfl, rfl, rfl⟩)⟩
  have hfails := (hserver 2 _ _ _ _ h).1.mpr rfl
  exact ⟨⟨_, t', tr, h, hfails, (hserver 2 _ _ _ _ h).2 hfails⟩, _, _, _, hcl,
    (hclient _ _ _ _ hcl).2 ((hclient _ _ _ _ hcl).1.mpr rfl)⟩

/-- **The defect.** The second of two mutexes cannot be initialised, and the first one is never
destroyed. -/
theorem creation_forgets_first_mutex : ∃ (t t' : Thread (UdtcpServer 2)) (tr : Trace posix)
    (addr : UInt64), Exec (udtcpCreateServer [] 0 0 0) t tr (-1) t' ∧ Fails (deeds tr) ∧
      .acquired (.mutex addr) ∈ deeds tr ∧ .released (.mutex addr) ∉ deeds tr ∧
      ¬ CleansUp (-1) (deeds tr) := by
  obtain ⟨tr, n, t', h, rfl, htr⟩ := may_secondMutexFails
  refine ⟨_, t', tr, (UdtcpServer.zero 0 : UdtcpServer 2).sendAddr 2, h, ?_⟩
  rw [htr]
  refine ⟨.inl (by simp), by simp, by simp, fun hclean ↦ ?_⟩
  have hlength := hclean.balanced.length_eq
  simp [acquired, released] at hlength

end Udtcp
