import Udtcp.Descriptors.Passes
import Udtcp.Send.Rules
import Udtcp.Send.Structure
import Udtcp.Table.Run

/-!
# The descriptors of a server over its life

From a successful creation through passes and messages in any order to the end of the deletion:
every number the server was given is closed again exactly once, none is named by a call while it is
not open, and no call but `poll` waits for a peer.
-/

namespace Udtcp

open Interaction Routine

/-! ### The life of a server -/

/-- Lives of a server up to its deletion, with all that happened. Between the calls other code of
the thread may leave any value in `errno`. -/
inductive ServerLife (m : Nat) : Trace posix → Thread (UdtcpServer m) → Prop
  | create {hostname : List UInt8} {tcpPort udpServerPort udpClientPort : UInt16}
      {t t' : Thread (UdtcpServer m)} {tr : Trace posix}
      (hrun : Exec (udtcpCreateServer hostname tcpPort udpServerPort udpClientPort) t tr 0 t') :
      ServerLife m tr t'
  | pass {fuel : Nat} {timeout : Int} {result : UdtcpPoll} {t t' : Thread (UdtcpServer m)}
      {done tr : Trace posix} (life : ServerLife m done t)
      (hrun : Exec (udtcpServerPoll fuel timeout) t tr result t') : ServerLife m (done ++ tr) t'
  | send {message : Request} {slot : Nat} {n : Int} {t t' : Thread (UdtcpServer m)}
      {done tr : Trace posix} (life : ServerLife m done t) (hslot : 2 ≤ slot)
      (hlive : slot < t.self.pollNfds) (hinfos : message.infos = t.self.infos slot)
      (hrun : Exec message.run t tr n t') : ServerLife m (done ++ tr) t'
  | configure {t : Thread (UdtcpServer m)} {done : Trace posix} (life : ServerLife m done t)
      (connect disconnect tcp udp : Bool) (e : Errno) :
      ServerLife m done ⟨e, t.self.withCallbacks connect disconnect tcp udp⟩

/-- What an observer must see preserved by the steps of a life. -/
structure LifeRules {m : Nat} {K : Type} (ker : Kernel posix K) (k₀ : K)
    (I : UdtcpServer m → K → Prop) : Prop where
  create : ∀ hostname tcpPort udpServerPort udpClientPort t, Must ker
    (udtcpCreateServer hostname tcpPort udpServerPort udpClientPort) t k₀ fun n t' k' ↦
      n = 0 → I t'.self k'
  pass : ∀ fuel timeout t k, I t.self k → Must ker (udtcpServerPoll fuel timeout) t k
    fun _ t' k' ↦ I t'.self k'
  send : ∀ (message : Request) slot t k, I t.self k → 2 ≤ slot → slot < t.self.pollNfds →
    message.infos = t.self.infos slot → Must ker message.run t k fun _ t' k' ↦ I t'.self k'
  configure : ∀ s k connect disconnect tcp udp, I s k →
    I (s.withCallbacks connect disconnect tcp udp) k

/-- **Rule for lives.** -/
theorem LifeRules.of_life {m : Nat} {K : Type} {ker : Kernel posix K} {k₀ k : K}
    {I : UdtcpServer m → K → Prop} {tr : Trace posix} {t : Thread (UdtcpServer m)}
    (h : LifeRules ker k₀ I) (life : ServerLife m tr t) (ha : ker.Accepts k₀ tr k) :
    I t.self k := by
  induction life generalizing k with
  | create hrun => exact h.create _ _ _ _ _ _ _ _ _ hrun ha rfl
  | pass _ hrun ih =>
    obtain ⟨k₁, hdone, hpass⟩ := ker.accepts_append.mp ha
    exact h.pass _ _ _ _ (ih hdone) _ _ _ _ hrun hpass
  | send _ hslot hlive hinfos hrun ih =>
    obtain ⟨k₁, hdone, hsend⟩ := ker.accepts_append.mp ha
    exact h.send _ _ _ _ (ih hdone) hslot hlive hinfos _ _ _ _ hrun hsend
  | configure _ _ _ _ _ _ ih => exact h.configure _ _ _ _ _ _ (ih ha)

section

variable {m : Nat} {t : Thread (UdtcpServer m)} {k : Files}

/-! ### Deletion -/

private theorem must_closeIfOpen_files {τ α : Type} {u : Thread τ} {fd : Fd} {fds : List Fd}
    {f : Unit → Proc τ α} {Q : α → Thread τ → Files → Prop} (h : k.Opens (fd :: fds))
    (hf : ∀ u' k', k'.Opens fds → Must filesKernel (f ()) u' k' Q) :
    Must filesKernel (closeIfOpen fd >>= f) u k Q := by
  refine must_bind (must_ite (fun _ ↦ ?_) fun hnone ↦ ?_)
  · exact must_close (h.isSome List.mem_cons_self) fun r ↦ must_pure (hf _ _ h.tail)
  · exact absurd (not_not.mp hnone) (h.ne_of_mem List.mem_cons_self)

namespace Server

private theorem emits_releaseSends_files (s : UdtcpServer m) (is : List Nat) :
    Emits k.Admits (releaseSends s is) := by
  induction is with
  | nil => exact emits_pure _
  | cons i is ih =>
    have hrest : Emits k.Admits (do
        issue (.mutexDestroy (s.sendAddr i))
        releaseSends s is) := (emits_issue fun _ ↦ Files.admits_of_nil rfl).bind fun _ ↦ ih
    refine (emits_perform fun _ ↦ Files.admits_of_nil rfl).bind fun v ↦
      .ite (.bind ?_ fun _ ↦ hrest) hrest
    cases v.buffer with
    | none => exact emits_pure _
    | some b => exact emits_issue fun _ ↦ Files.admits_of_nil rfl

private theorem must_releaseClients_files {s : UdtcpServer m} {is : List Nat}
    (h : k.Opens ((is.map fun i ↦ (s.pollFds i).fd).filter (· ≠ -1))) :
    Must filesKernel (releaseClients s is) t k fun _ _ k' ↦ k'.Opens [] := by
  induction is generalizing t k with
  | nil => exact must_pure h
  | cons i is ih =>
    have hnext (hrest : ∀ t k, k.Opens ((is.map fun i ↦ (s.pollFds i).fd).filter (· ≠ -1)) →
        Must filesKernel (releaseClients s is) t k fun _ _ k' ↦ k'.Opens []) :
        ∀ t k, k.Opens ((is.map fun i ↦ (s.pollFds i).fd).filter (· ≠ -1)) → Must filesKernel (do
          if (s.pollFds i).fd ≠ -1 ∧ s.disconnectCallback then
            issue (.callback (.disconnect i (s.infos i)))
          else
            pure ()
          releaseClients s is : ServerProc m Unit) t k fun _ _ k' ↦ k'.Opens [] := fun t k h ↦
      must_ite (fun _ ↦ must_admitted_issue (fun _ ↦ Files.admits_of_nil rfl) (hrest t k h))
        fun _ ↦ hrest t k h
    unfold releaseClients
    by_cases hfd : (s.pollFds i).fd = -1
    · rw [List.map_cons, List.filter_cons_of_neg (by simpa using hfd)] at h
      refine must_bind (must_ite (fun hne ↦ absurd hfd hne) fun _ ↦ must_pure ?_)
      refine must_bind (must_ite (fun hne ↦ absurd hfd hne) fun _ ↦ must_pure ?_)
      exact hnext (fun _ _ ↦ ih) t k h
    · rw [List.map_cons, List.filter_cons_of_pos (by simpa using hfd)] at h
      have hopen := h.isSome List.mem_cons_self
      refine must_bind (must_ite (fun _ ↦ ?_) fun hnone ↦ absurd hfd hnone)
      refine must_admitted_syscall (fun _ ↦ Files.admits_used rfl hopen) fun r _ ↦ must_pure ?_
      exact must_closeIfOpen_files h (hnext fun _ _ ↦ ih)

end Server

/-- A server that is deleted closes all it holds. -/
theorem must_udtcpDeleteServer_files (h : Tends t.self k []) :
    Must filesKernel udtcpDeleteServer t k fun _ _ k' ↦ k'.Opens [] := by
  unfold udtcpDeleteServer
  refine must_self_bind (must_closeIfOpen_files h.opens fun t₁ k₁ h₁ ↦ ?_)
  refine must_closeIfOpen_files h₁ fun t₂ k₂ h₂ ↦ must_closeIfOpen_files h₂ fun t₃ k₃ h₃ ↦ ?_
  refine must_bind (must_admitted (Server.emits_releaseSends_files _ _) fun _ _ t₄ _ ↦ must_bind ?_)
  refine (Server.must_releaseClients_files h₃).mono fun _ t₅ k₅ h₅ ↦ ?_
  have hfree : Must filesKernel (issue .freeServer) t₅ k₅ fun _ _ k' ↦ k'.Opens [] :=
    must_issue fun _ _ hstep ↦ filesKernel_eq_of_admits (Files.admits_of_nil rfl) hstep ▸ h₅
  refine must_ite (fun _ ↦ ?_) fun _ ↦ hfree
  cases t.self.buffer.bufferData with
  | none => exact hfree
  | some b => exact must_admitted_issue (fun _ ↦ Files.admits_of_nil rfl) hfree

/-! ### Creation -/

/-- A server under construction whose three sockets are open, the first two of them in the table. -/
structure Raises (s : UdtcpServer m) (k : Files) : Prop where
  opens : k.Opens s.ownFds
  pollNfds : s.pollNfds = 2
  listener : (s.pollFds 0).fd = s.serverInfos.tcpSocket
  receiver : (s.pollFds 1).fd = s.serverInfos.udpServerSocket

namespace Raises

variable {s : UdtcpServer m}

/-- Other fields of the first record may change. -/
theorem setInfos (h : Raises s k) {r : UdtcpInfos} (htcp : r.tcpSocket = s.serverInfos.tcpSocket)
    (hserver : r.udpServerSocket = s.serverInfos.udpServerSocket)
    (hclient : r.udpClientSocket = s.serverInfos.udpClientSocket) : Raises (s.setInfos 0 r) k := by
  have h₀ : (s.setInfos 0 r).serverInfos = r := s.infos_setInfos_self 0 r
  have hown : (s.setInfos 0 r).ownFds = s.ownFds := by
    rw [UdtcpServer.ownFds, h₀, htcp, hserver, hclient]
    rfl
  refine ⟨hown ▸ h.opens, h.pollNfds, ?_, ?_⟩
  · rw [h₀, htcp]
    exact h.listener
  · rw [h₀, hserver]
    exact h.receiver

/-- The flags of an own socket may change. -/
theorem flag (h : Raises s k) {fd : Fd} (hfd : fd ∈ s.ownFds) (flags : Nat) :
    Raises s (k.set fd (some flags)) :=
  ⟨h.opens.flag hfd flags, h.pollNfds, h.listener, h.receiver⟩

/-- With the two polled sockets made non-blocking the construction is complete. -/
theorem tends (h : Raises s k) (htcp : Nonblocking (k.state s.serverInfos.tcpSocket))
    (hudp : Nonblocking (k.state s.serverInfos.udpServerSocket)) : Tends s k [] ∧ s.Settled := by
  have hnone : s.clientFds = [] := by rw [UdtcpServer.clientFds, h.pollNfds]; rfl
  have hlen := h.pollNfds
  refine ⟨⟨?_, hlen.ge, h.listener, h.receiver, htcp, hudp, ?_, fun i hlow hi ↦ ?_⟩,
    fun i hlow hi ↦ ?_⟩
  · rw [hnone, List.append_nil]
    exact h.opens
  · rw [hnone]
    exact List.forall_mem_nil _
  · omega
  · omega

end Raises

namespace Server

-- What a successful creation leaves.
private def Creates (n : Int) (t : Thread (UdtcpServer m)) (k : Files) : Prop :=
  n = 0 → Tends t.self k [] ∧ t.self.Settled

private theorem must_abandon_files : Must filesKernel abandon t k Creates :=
  fun _ _ _ _ hrun _ hzero ↦ by cases (exec_abandon hrun).symm.trans hzero

private theorem must_finishServer_files (h : Raises t.self k)
    (htcp : Nonblocking (k.state t.self.serverInfos.tcpSocket))
    (hudp : Nonblocking (k.state t.self.serverInfos.udpServerSocket)) :
    Must filesKernel finishServer t k Creates := by
  unfold finishServer
  refine must_update_bind (must_bind (must_onPart ?_))
  intro tr _ u k' hrun ha
  obtain ⟨name, rfl, hlink⟩ := exec_udtcpSetStringInfos hrun
  obtain ⟨k₁, hname, rfl⟩ := ha
  have hshort : ∀ text, name = some text → NameFits text := by
    rintro text rfl
    exact hname.1
  obtain rfl : k' = k := filesKernel_eq_of_admits (Files.admits_of_nil rfl) hname
  have hr := hlink hshort
  have h₀ : (t.self.setInfos 0 u.self).serverInfos = u.self := t.self.infos_setInfos_self 0 u.self
  have hself : (t.self.modifyServerInfos fun r ↦ { r with id := 0 }).setInfos 0 u.self =
      t.self.setInfos 0 u.self := by
    simp [UdtcpServer.modifyServerInfos, UdtcpServer.modifyInfos, UdtcpServer.setInfos]
  have hraises : Raises (t.self.setInfos 0 u.self) k' :=
    h.setInfos hr.tcpSocket hr.udpServerSocket hr.udpClientSocket
  refine must_update_bind (must_pure fun _ ↦ ?_)
  dsimp only
  rw [hself]
  obtain ⟨htends, hset⟩ :=
    hraises.tends (by rwa [h₀, hr.tcpSocket]) (by rwa [h₀, hr.udpServerSocket])
  exact ⟨htends.congr rfl (fun _ _ ↦ rfl) fun _ _ ↦ rfl, hset⟩

private theorem must_unblock {fd : Fd} (h : Raises t.self k) (hfd : fd ∈ t.self.ownFds)
    {f : Int → ServerProc m Int} (hfail : ∀ t' k', Must filesKernel (f (-1)) t' k' Creates)
    (hdone : ∀ t' k' flags, t'.self = t.self → Nonblocking (some flags) →
      k' = k.set fd (some flags) → Must filesKernel (f 0) t' k' Creates) :
    Must filesKernel (udtcpSocketAddOption fd O_NONBLOCK >>= f) t k Creates := by
  refine must_bind ((must_addNonblock (h.opens.isSome hfd)).mono ?_)
  rintro o t₁ k₁ ⟨hself, ⟨rfl, -⟩ | ⟨rfl, flags, ⟨bits, rfl, hbits⟩, hset⟩⟩
  · exact hfail t₁ k₁
  · exact hdone t₁ k₁ bits hself ⟨bits, rfl, hbits⟩ hset

private theorem must_listenServer_files (h : Raises t.self k) :
    Must filesKernel listenServer t k Creates := by
  unfold listenServer
  refine must_update_bind (must_self_bind ?_)
  have h : Raises (t.self.modifyServerInfos fun r ↦ { r with
      tcpPort := htons r.tcpAddr.sinPort
      udpServerPort := htons r.udpServerAddr.sinPort
      udpClientPort := htons r.udpClientAddr.sinPort }) k := h.setInfos rfl rfl rfl
  generalize UdtcpServer.modifyServerInfos t.self _ = s at h
  dsimp only
  have htcp : s.serverInfos.tcpSocket ∈ s.ownFds := by simp [UdtcpServer.ownFds]
  have hudp : s.serverInfos.udpServerSocket ∈ s.ownFds := by simp [UdtcpServer.ownFds]
  have hne : s.serverInfos.tcpSocket ≠ s.serverInfos.udpServerSocket := by
    have hnodup := h.opens.nodup
    simp only [UdtcpServer.ownFds, List.nodup_cons, List.mem_cons, not_or] at hnodup
    exact hnodup.1.1
  refine must_admitted_syscall (fun _ ↦ Files.admits_used rfl (h.opens.isSome htcp)) fun r _ ↦ ?_
  cases r with
  | error e => exact must_abandon_files
  | ok u =>
    refine must_self_bind (must_unblock h htcp (fun _ _ ↦ must_ite (fun _ ↦ must_abandon_files)
      fun hno ↦ absurd rfl hno) ?_)
    rintro t₁ _ flags hself₁ hflags rfl
    refine must_ite (fun hno ↦ by cases hno) fun _ ↦ must_self_bind ?_
    have h₁ : Raises t₁.self (k.set s.serverInfos.tcpSocket (some flags)) := by
      rw [hself₁]
      exact h.flag htcp flags
    have hudp₁ : t₁.self.serverInfos.udpServerSocket ∈ t₁.self.ownFds := by
      simp [UdtcpServer.ownFds]
    refine must_unblock h₁ hudp₁ (fun _ _ ↦ must_ite (fun _ ↦ must_abandon_files)
      fun hno ↦ absurd rfl hno) ?_
    rintro t₂ _ flags' hself₂ hflags' rfl
    refine must_ite (fun hno ↦ by cases hno) fun _ ↦ must_finishServer_files ?_ ?_ ?_
    · rw [hself₂]
      exact h₁.flag hudp₁ flags'
    · rw [hself₂, hself₁]
      show Nonblocking (((k.set s.serverInfos.tcpSocket (some flags)).set
        s.serverInfos.udpServerSocket (some flags')).state s.serverInfos.tcpSocket)
      rw [Files.set_of_ne hne, Files.set_self]
      exact hflags
    · rw [hself₂, Files.set_self]
      exact hflags'

private theorem must_bindOrAbandon_files {fd : Fd} {name : SockaddrIn}
    {f : SockaddrIn → ServerProc m Int} (hfd : (k.state fd).isSome)
    (hf : ∀ name t', t'.self = t.self → Must filesKernel (f name) t' k Creates) :
    Must filesKernel (bindSocket fd name >>= fun o ↦ match o with
      | none => abandon
      | some name => f name) t k Creates := by
  have hcalls : Emits k.Admits (bindSocket fd name : ServerProc m _) := by
    unfold bindSocket
    refine (emits_syscall fun _ ↦ Files.admits_used rfl hfd).bind fun r ↦ ?_
    cases r with
    | error e => exact emits_pure _
    | ok u =>
      refine (emits_syscall fun _ ↦ Files.admits_used rfl hfd).bind fun r ↦ ?_
      cases r <;> exact emits_pure _
  refine must_bind (must_admitted hcalls fun tr o t₁ hrun ↦ ?_)
  cases o with
  | none => exact must_abandon_files
  | some name => exact hf name t₁ (exec_bindSocket hrun).1

private theorem must_bindSockets_files {host : Hostent} {p q r : UInt16} (h : Raises t.self k) :
    Must filesKernel (bindSockets host p q r) t k Creates := by
  have hopen {s : UdtcpServer m} (h : Raises s k) {fd : Fd} (hfd : fd ∈ s.ownFds) :
      (k.state fd).isSome := h.opens.isSome hfd
  unfold bindSockets
  have h₁ : Raises (t.self.modifyServerInfos fun r ↦
      { r with tcpAddr := bindAddr host.addr p }) k := h.setInfos rfl rfl rfl
  refine must_update_bind (must_self_bind (must_self_bind (must_bindOrAbandon_files
    (hopen h₁ (by simp [UdtcpServer.ownFds])) fun name t₁ hself ↦ ?_)))
  replace h₁ : Raises t₁.self k := by
    rw [hself]
    exact h₁
  have h₂ : Raises (t₁.self.modifyServerInfos fun r ↦ { r with
      tcpAddr := name
      udpServerAddr := bindAddr host.addr q }) k := h₁.setInfos rfl rfl rfl
  refine must_update_bind (must_self_bind (must_self_bind (must_bindOrAbandon_files
    (hopen h₂ (by simp [UdtcpServer.ownFds])) fun name t₂ hself ↦ ?_)))
  replace h₂ : Raises t₂.self k := by
    rw [hself]
    exact h₂
  have h₃ : Raises (t₂.self.modifyServerInfos fun s ↦ { s with
      udpServerAddr := name
      udpClientAddr := bindAddr host.addr r }) k := h₂.setInfos rfl rfl rfl
  refine must_update_bind (must_self_bind (must_self_bind (must_bindOrAbandon_files
    (hopen h₃ (by simp [UdtcpServer.ownFds])) fun name t₃ hself ↦ ?_)))
  replace h₃ : Raises t₃.self k := by
    rw [hself]
    exact h₃
  exact must_update_bind (must_listenServer_files (h₃.setInfos rfl rfl rfl))

private theorem must_openSockets_files {host : Hostent} {p q r : UInt16} (h : k.Opens []) :
    Must filesKernel (openSockets host p q r) t k Creates := by
  have hrelease (opened : List Fd) (t : Thread (UdtcpServer m)) (k : Files) :
      Must filesKernel (releaseServer opened) t k Creates :=
    fun _ _ _ _ hrun _ hzero ↦ by cases (exec_releaseServer hrun).symm.trans hzero
  unfold openSockets
  refine must_socket (fun _ ↦ hrelease _ _ _) fun tcp htcp ↦ ?_
  have h₁ := h.cons htcp tcp.property 0
  refine must_update_bind (must_update_bind (must_update_bind ?_))
  refine must_socket (fun _ ↦ hrelease _ _ _) fun udpServer hserver ↦ ?_
  have h₂ := h₁.cons hserver udpServer.property 0
  refine must_update_bind (must_update_bind (must_update_bind ?_))
  refine must_socket (fun _ ↦ hrelease _ _ _) fun udpClient hclient ↦ ?_
  have h₃ := h₂.cons hclient udpClient.property 0
  refine must_update_bind (must_bindSockets_files ⟨h₃.perm ?_, rfl, rfl, rfl⟩)
  exact List.reverse_perm _ |>.symm

end Server

/-- A server that was created holds its three sockets. -/
theorem must_udtcpCreateServer_files {hostname : List UInt8} {p q r : UInt16} :
    Must filesKernel (udtcpCreateServer hostname p q r) t (.start none) fun n t' k' ↦
      n = 0 → Tends t'.self k' [] ∧ t'.self.Settled := by
  have hclear (s : UdtcpServer m) (is : List Nat) (k : Files) :
      Emits k.Admits (Server.clearSends s is) := by
    induction is with
    | nil => exact emits_pure _
    | cons i is ih => exact (emits_issue fun _ ↦ Files.admits_of_nil rfl).bind fun _ ↦ ih
  have hinit (s : UdtcpServer m) (is : List Nat) (k : Files) :
      Emits k.Admits (Server.initMutexes s is) := by
    induction is with
    | nil => exact emits_pure _
    | cons i is ih =>
      exact (emits_perform fun _ ↦ Files.admits_of_nil rfl).bind fun _ ↦ .ite ih (emits_pure _)
  unfold udtcpCreateServer
  refine must_admitted_request (fun _ ↦ Files.admits_of_nil rfl) fun host _ ↦ ?_
  cases host with
  | none => exact must_setErrno_bind (must_pure fun hzero ↦ by cases hzero)
  | some host =>
    refine must_admitted_syscall (fun r ↦ Files.admits_of_nil (by cases r <;> rfl)) fun addr _ ↦ ?_
    cases addr with
    | error e => exact must_pure fun hzero ↦ by cases hzero
    | ok addr =>
      refine must_update_bind (must_self_bind (must_bind (must_admitted (hclear _ _ _) ?_)))
      intro _ _ t₁ _
      refine must_bind (must_admitted (hinit _ _ _) fun _ o t₂ _ ↦ ?_)
      cases o with
      | some i =>
        exact must_bind fun _ _ _ _ _ _ ↦ must_issue_bind fun _ _ _ ↦ must_pure fun hzero ↦ by
          cases hzero
      | none => exact Server.must_openSockets_files Files.Opens.start

/-! ### Lives -/

private theorem must_send_files {message : Request} {slot : Nat} (h : Tends t.self k [])
    (hset : t.self.Settled) (hslot : 2 ≤ slot) (hlive : slot < t.self.pollNfds)
    (hinfos : message.infos = t.self.infos slot) :
    Must filesKernel message.run t k fun _ t' k' ↦ t'.self = t.self ∧ k' = k := by
  have hfd := hset slot hslot hlive
  have htcp : (k.state message.infos.tcpSocket).isSome := by
    rw [hinfos]
    exact (h.waiting _ (h.mem_clientFds hslot hlive hfd)).isSome
  have hudp : (k.state message.infos.udpServerSocket).isSome := by
    rw [hinfos, (h.linked slot hslot hlive hfd).2]
    exact h.isSome_of_own (by simp [UdtcpServer.ownFds])
  have hsame (c : Call) (hc : ∀ r, k.Admits ⟨c, r⟩) (u : Thread (UdtcpServer m)) (k₁ : Files)
      (r : c.Reply) (k₂ : Files) (hI : u.self = t.self ∧ k₁ = k) (hstep : filesKernel k₁ c r k₂) :
      u.self = t.self ∧ k₂ = k := by
    obtain ⟨hself, rfl⟩ := hI
    exact ⟨hself, filesKernel_eq_of_admits (hc r) hstep⟩
  have hrules : MessageRules filesKernel
      (fun (u : Thread (UdtcpServer m)) k₁ ↦ u.self = t.self ∧ k₁ = k)
      (fun u k₁ ↦ u.self = t.self ∧ k₁ = k) message.infos := by
    refine ⟨fun u k₁ ok k₂ hI hstep ↦ ?_,
      hsame (.mutexUnlock message.infos.send) fun _ ↦ Files.admits_of_nil rfl,
      fun c hc u k₁ r k₂ hI hstep ↦ ?_, fun c hc ↦ hsame c fun r ↦ ?_⟩
    · simpa using hsame (.mutexLock message.infos.send) (fun _ ↦ Files.admits_of_nil rfl) u k₁ ok k₂
        hI hstep
    · rw [Thread.note_self]
      refine hsame (.sys c) (fun r ↦ ?_) u k₁ r k₂ hI hstep
      cases c
      case newBuffer => cases r <;> exact Files.admits_of_nil rfl
      case send =>
        refine Files.admits_used rfl ?_
        rwa [of_decide_eq_true hc]
      case sendto =>
        refine Files.admits_used rfl ?_
        rwa [of_decide_eq_true hc]
      all_goals cases hc
    · cases c
      case freeBuffer => exact Files.admits_of_nil rfl
      case loadSend => exact Files.admits_of_nil rfl
      case storeSend => exact Files.admits_of_nil rfl
      all_goals cases hc
  exact hrules.maintains_run t k ⟨rfl, rfl⟩

private theorem lifeRules_files : LifeRules (m := m) filesKernel (.start none)
    fun s k ↦ Tends s k [] ∧ s.Settled where
  create _ _ _ _ _ := must_udtcpCreateServer_files
  pass _ _ _ _ h := must_udtcpServerPoll_files h.1 h.2
  send message slot t k h hslot hlive hinfos :=
    (must_send_files h.1 h.2 hslot hlive hinfos).mono fun _ _ _ ⟨hself, hk⟩ ↦ by
      rw [hself, hk]
      exact h
  configure _ _ _ _ _ _ h := ⟨h.1.congr rfl (fun _ _ ↦ rfl) fun _ _ ↦ rfl, h.2⟩

/-- **Descriptors.** From a creation that succeeds, through passes and messages in any order, to the
end of the deletion, what happens to each number is a path of the automaton that ends where it
began: every time it is handed out it is closed exactly once, in between alone is it named by a
call, and none of the calls that wait for input is made on it before `O_NONBLOCK` is set. -/
theorem server_descriptors_closed {tr tr' : Trace posix} {t t' : Thread (UdtcpServer m)} {u : Unit}
    {k : Files} (life : ServerLife m tr t) (hdelete : Exec udtcpDeleteServer t tr' u t')
    (ha : filesKernel.Accepts (.start none) (tr ++ tr') k) (fd : Fd) :
    (eventsOf fd (eventsIn fileEvents (tr ++ tr'))).foldlM fileNext none = some none := by
  have hend : k = (Custody.start none).follow fileNext (eventsIn fileEvents (tr ++ tr')) :=
    follow_of_accepts ha
  obtain ⟨k₁, hlife, hdel⟩ := filesKernel.accepts_append.mp ha
  have hopens : k.Opens [] :=
    must_udtcpDeleteServer_files (lifeRules_files.of_life life hlife).1 _ _ _ _ hdelete hdel
  have hpath := Custody.path_of_sound (hend ▸ hopens.sound) fd
  rw [← hend, hopens.state_of_nil fd] at hpath
  exact hpath

end

/-! ### A visit -/

private theorem spare_three : (0 : Fd) ≤ 3 := by decide

private theorem spare_four : (0 : Fd) ≤ 4 := by decide

private theorem spare_five : (0 : Fd) ≤ 5 := by decide

private theorem visitor_six : (0 : Fd) ≤ 6 := by decide

/-- A number that nothing open has, as long as there is one. -/
def spare (k : Files) : Except Errno Descriptor :=
  if k.state 3 = none then .ok ⟨3, spare_three⟩
  else if k.state 4 = none then .ok ⟨4, spare_four⟩
  else if k.state 5 = none then .ok ⟨5, spare_five⟩
  else .error (.other 0)

/-- Surroundings in which one client comes, sends its record and then nothing. -/
def visitReply (k : Files) : (c : Call) → Option c.Reply
  | .sys (.socket _) => some (spare k)
  | .sys (.setsockopt _ _) => some (.ok ())
  | .sys (.bind _ _) => some (.ok ())
  | .sys (.getsockname _) => some (.ok .zero)
  | .sys (.listen _ _) => some (.ok ())
  | .sys (.accept _) => some <|
    if k.state 6 = none then .ok (⟨6, visitor_six⟩, .zero) else .error .ewouldblock
  | .sys (.getfl _) => some (.ok (0 : Nat))
  | .sys (.setfl _ _) => some (.ok ())
  | .sys (.poll fds _) => some (.ok (Vector.replicate fds.length POLLIN))
  | .sys (.recv _ .record len) => some <|
    if hlen : UdtcpInfos.sizeof ≤ len then .ok ⟨List.replicate UdtcpInfos.sizeof 0, by simpa⟩
    else .error .ewouldblock
  | .sys (.send _ data) => some (.ok ⟨data.length, Nat.le_refl _⟩)
  | .sys (.shutdown _) => some (.ok ())
  | .sys (.close _) => some (.ok ())
  | .sys .newServer => some (.ok (0 : UInt64))
  | .sys _ => some (.error .ewouldblock)
  | .gethostbyname _ => some (some ⟨[], 0⟩)
  | .gethostbyaddr _ => some none
  | .freeBuffer _ => some ()
  | .freeServer => some ()
  | .freeClient => some ()
  | .mutexInit _ => some true
  | .mutexDestroy _ => some ()
  | .mutexLock _ => some true
  | .mutexUnlock _ => some ()
  | .pollLoop => some true
  | .loadSend _ => some .zero
  | .storeSend _ _ => some ()
  | .callback _ => some ()
  | .fault => none

/-- The surroundings of the visit, with the descriptors as they become. -/
def visit : Handler posix Files := fun k c ↦
  (visitReply k c).map fun r ↦ (r, k.follow fileNext (fileEvents c r))

private theorem state_of_spare {k : Files} {fd : Descriptor} (h : spare k = .ok fd) :
    k.state fd.val = none := by
  unfold spare at h
  split_ifs at h with h₃ h₄ h₅ <;> obtain rfl := Except.ok.inj h <;> assumption

private theorem filesKernel_of_visit {k k' : Files} {c : Call} {r : c.Reply}
    (h : visit.kernel k c r k') : filesKernel k c r k' := by
  obtain ⟨r', hr, heq⟩ := Option.map_eq_some_iff.mp h
  obtain ⟨rfl, rfl⟩ := Prod.mk.inj heq
  refine ⟨?_, rfl⟩
  cases c with
  | sys c =>
    cases c with
    | socket kind =>
      have hspare : spare k = r' := Option.some.inj hr
      cases r' with
      | error e => trivial
      | ok fd => exact state_of_spare hspare
    | accept fd =>
      obtain rfl := (Option.some.inj hr).symm
      by_cases hnew : k.state 6 = none
      · rw [if_pos hnew]
        exact hnew
      · rw [if_neg hnew]
        trivial
    | recv fd target len =>
      cases target with
      | record =>
        obtain rfl := (Option.some.inj hr).symm
        by_cases hlen : UdtcpInfos.sizeof ≤ len
        · rw [dif_pos hlen]
          exact .inl List.length_replicate
        · rw [dif_neg hlen]
          trivial
      | _ => cases r' <;> trivial
    | _ => cases r' <;> trivial
  | gethostbyaddr key =>
    obtain rfl := (Option.some.inj hr).symm
    trivial
  | _ => trivial

/-- The number of a client that is accepted is used and closed by the deletion. -/
theorem server_descriptors_closed_visit : ∃ tr tr' : Trace posix,
    FileEvent.opened ∈ eventsOf 6 (eventsIn fileEvents tr) ∧
      .closed ∈ eventsOf 6 (eventsIn fileEvents tr') ∧
      (eventsOf 6 (eventsIn fileEvents (tr ++ tr'))).foldlM fileNext none = some none := by
  have hrun : ((visit.run (udtcpCreateServer (m := 1) [] 0 0 0 ⟨.other 0, .zero 0⟩)
      (.start none)).bind fun o₀ ↦ (visit.run (udtcpServerPoll 4 0 o₀.2.1.2) o₀.2.2).bind
      fun o₁ ↦ (visit.run (udtcpDeleteServer o₁.2.1.2) o₁.2.2).map
      fun o₂ ↦ (o₀.2.1.1, decide (FileEvent.opened ∈ eventsOf 6 (eventsIn fileEvents o₁.1) ∧
        .closed ∈ eventsOf 6 (eventsIn fileEvents o₂.1)))) = some (0, true) := by
    decide +kernel
  obtain ⟨⟨tr₀, ⟨n, t₀⟩, k₀⟩, h₀, hrun⟩ := Option.bind_eq_some_iff.mp hrun
  obtain ⟨⟨tr₁, ⟨result, t₁⟩, k₁⟩, h₁, hrun⟩ := Option.bind_eq_some_iff.mp hrun
  obtain ⟨⟨tr₂, ⟨u, t₂⟩, k₂⟩, h₂, hrun⟩ := Option.map_eq_some_iff.mp hrun
  obtain ⟨hn, hfacts⟩ := Prod.mk.inj hrun
  obtain rfl : n = 0 := hn
  obtain ⟨hcreate, ha₀⟩ := (visit.run_eq_some_iff _ _ _ _ _).mp h₀
  obtain ⟨hpass, ha₁⟩ := (visit.run_eq_some_iff _ _ _ _ _).mp h₁
  obtain ⟨hdelete, ha₂⟩ := (visit.run_eq_some_iff _ _ _ _ _).mp h₂
  obtain ⟨hopened, hclosed⟩ := of_decide_eq_true hfacts
  have hlife : ServerLife 1 (tr₀ ++ tr₁) t₁ := .pass (.create hcreate) hpass
  have ha : visit.kernel.Accepts (.start none) ((tr₀ ++ tr₁) ++ tr₂) k₂ :=
    visit.kernel.accepts_append.mpr ⟨k₁, visit.kernel.accepts_append.mpr ⟨k₀, ha₀, ha₁⟩, ha₂⟩
  have hevents : eventsIn fileEvents (tr₀ ++ tr₁) =
      eventsIn fileEvents tr₀ ++ eventsIn fileEvents tr₁ := List.flatMap_append
  refine ⟨tr₀ ++ tr₁, tr₂, ?_, hclosed,
    server_descriptors_closed hlife hdelete (ha.mono fun _ _ _ _ ↦ filesKernel_of_visit) 6⟩
  rw [hevents, eventsOf, List.filterMap_append]
  exact List.mem_append_right _ hopened

end Udtcp
