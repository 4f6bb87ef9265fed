import Udtcp.Receive.Calls
import Udtcp.Server.Calls
import Udtcp.Table.Run

/-!
# Which sockets a pass reads

The scan of `udtcp_server_poll` (`server_poll.c:464–516`) reads from the clients whose entries carry
`POLLIN`. `poll` has written that into the entries it was handed; the entry of a client that is
accepted during the scan is entered with the flags that were left in its slot
(`server_poll.c:173–175`).
-/

namespace Udtcp

open Interaction Routine

/-- The socket a message header is read from. -/
def headerReadOf : Call → Option Fd
  | .sys (.recv fd .word _) => some fd
  | _ => none

/-- The sockets message headers are read from, in the order of the reads. Every `receive_tcp` begins
with such a read, and nothing else reads one. -/
def headersRead (tr : Trace posix) : List Fd := tr.filterMap fun e ↦ headerReadOf e.call

/-- The number of clients whose handshake is completed. -/
def admissions (tr : Trace posix) : Nat :=
  (receivedRecords tr).countP (·.length = UdtcpInfos.sizeof)

private theorem headersRead_append (tr₁ tr₂ : Trace posix) :
    headersRead (tr₁ ++ tr₂) = headersRead tr₁ ++ headersRead tr₂ := List.filterMap_append

private theorem headersRead_cons_of_none {e : Event posix} (h : headerReadOf e.call = none)
    (tr : Trace posix) : headersRead (e :: tr) = headersRead tr := List.filterMap_cons_none h

private theorem headersRead_eq_nil {tr : Trace posix} (h : ∀ e ∈ tr, headerReadOf e.call = none) :
    headersRead tr = [] := List.filterMap_eq_nil_iff.mpr h

private theorem admissions_append (tr₁ tr₂ : Trace posix) :
    admissions (tr₁ ++ tr₂) = admissions tr₁ + admissions tr₂ := by
  rw [admissions, receivedRecords, sightings_append, List.filterMap_append, List.countP_append]
  rfl

private theorem admissions_eq_zero {tr : Trace posix} (h : sightings tr = []) :
    admissions tr = 0 := by
  rw [admissions, receivedRecords, h]
  rfl

section

variable {m : Nat}

/-- What a part of the scan does to the table, as far as readiness goes: every client admitted gets
the next slot, and `revents` and the records of the slots in use are left alone. -/
structure Swept (s s' : UdtcpServer m) (tr : Trace posix) : Prop where
  pollNfds : s'.pollNfds = s.pollNfds + admissions tr
  revents : ∀ k, (s'.pollFds k).revents = (s.pollFds k).revents
  infos : ∀ k < s.pollNfds, s'.infos k = s.infos k

namespace Swept

variable {s s' s'' : UdtcpServer m} {tr tr' : Trace posix}

/-- Nothing was swept. -/
theorem refl (s : UdtcpServer m) : Swept s s [] := ⟨rfl, fun _ ↦ rfl, fun _ _ ↦ rfl⟩

/-- What was swept in two parts. -/
theorem trans (h : Swept s s' tr) (h' : Swept s' s'' tr') : Swept s s'' (tr ++ tr') where
  pollNfds := by rw [h'.pollNfds, h.pollNfds, admissions_append, Nat.add_assoc]
  revents k := (h'.revents k).trans (h.revents k)
  infos k hk := by
    have hle := h.pollNfds
    exact (h'.infos k (by omega)).trans (h.infos k hk)

/-- A part without a completed handshake. -/
theorem of_unadmitted (h : admissions tr = 0) (hn : s'.pollNfds = s.pollNfds)
    (hr : ∀ k, (s'.pollFds k).revents = (s.pollFds k).revents)
    (hi : ∀ k < s.pollNfds, s'.infos k = s.infos k) : Swept s s' tr :=
  ⟨by rw [h, hn, Nat.add_zero], hr, hi⟩

end Swept

variable {t t' : Thread (UdtcpServer m)} {tr : Trace posix} {n : Int} {fuel slot : Nat}

/-- A handshake changes records from its own on. -/
theorem kept_initializeConnection (h : Exec (initializeConnection slot) t tr n t') :
    t.self.Kept slot t'.self := by
  refine Maintains.exec (I := fun t₁ ↦ t.self.Kept slot t₁.self) (fun ker ↦ ?_) h (.refl _ _)
  have hsys (c : SysCall) : Maintains ker (fun t₁ _ ↦ t.self.Kept slot t₁.self)
      (syscall c : ServerProc m _) := by
    refine maintains_syscall fun t₁ _ r _ hI _ ↦ ?_
    rw [Thread.note_self]
    exact hI
  unfold initializeConnection
  refine maintains_self.bind fun s ↦ (hsys _).bind fun sent ↦ .ite (maintains_pure _) ?_
  refine ((hsys _).bind fun _ ↦ maintains_pure _).bind fun ready ↦ .ite (maintains_pure _) ?_
  refine maintains_self.bind fun s ↦ (hsys _).bind fun got ↦ ?_
  cases got with
  | error e => exact maintains_pure _
  | ok bs =>
    have hwrite : Maintains ker (fun t₁ _ ↦ t.self.Kept slot t₁.self)
        (writeRecord slot bs.val : ServerProc m Unit) :=
      fun t₁ k hI tr u t₂ k' hw _ ↦ hI.trans (exec_writeRecord hw).1
    have hfill (f : UdtcpInfos → UdtcpInfos) : Maintains ker (fun t₁ _ ↦ t.self.Kept slot t₁.self)
        (update (·.modifyInfos slot f)) :=
      maintains_update fun t₁ _ hI ↦ hI.trans (t₁.self.kept_modifyInfos f (Nat.le_refl slot))
    exact hwrite.bind fun _ ↦ .ite (maintains_pure _) (maintains_self.bind fun s ↦
      (hfill _).bind fun _ ↦ maintains_pure _)

private theorem UdtcpServer.Kept.swept {s s' : UdtcpServer m} (h : s.Kept s.pollNfds s')
    (hunadmitted : admissions tr = 0) : Swept s s' tr :=
  .of_unadmitted hunadmitted h.pollNfds (fun k ↦ by rw [h.pollFds]) h.infos

/-- The client that is entered gets the flags left in its slot. -/
theorem swept_enter (s : UdtcpServer m) (r : UdtcpInfos) (h : admissions tr = 1) :
    Swept s (s.enter s.pollNfds r) tr where
  pollNfds := by rw [h]; rfl
  revents k := by
    by_cases hk : k = s.pollNfds
    · subst hk
      simp [UdtcpServer.enter]
    · simp [UdtcpServer.enter, hk]
  infos k hk := Function.update_of_ne (Nat.ne_of_lt hk) _ _

/-- **Accepting.** -/
theorem swept_acceptClient (h : Exec acceptClient t tr n t') : Swept t.self t'.self tr := by
  by_cases hn : n = -1
  · subst hn
    obtain ⟨hkept, hseen⟩ := sightings_acceptClient_failed h
    refine hkept.swept ?_
    rw [admissions, receivedRecords]
    rcases hseen with hseen | ⟨fd, addr, hseen | ⟨r, bs, -, hlen, hseen⟩⟩
    · rw [hseen]
      rfl
    · rw [hseen]
      rfl
    · rw [hseen]
      exact List.countP_eq_zero.mpr (by simpa using hlen)
  · rcases exec_acceptClient h with ⟨e, -, hfail, -⟩ | ⟨fd, addr, rest, rfl, hcases⟩
    · exact absurd hfail hn
    rcases hcases with ⟨-, hfail, -⟩ | ⟨-, t₁, hs₁, hthen⟩
    · exact absurd hfail hn
    obtain ⟨tr₁, o, t₂, rest, rfl, hopt, hrest⟩ := exec_admitClient hthen
    obtain ⟨hs₂, -, -⟩ := exec_udtcpSocketAddOption hopt
    rcases hrest with ⟨-, hfail, -⟩ | ⟨-, tr₂, k, t₃, tr₃, rfl, hinit, hend⟩
    · exact absurd hfail hn
    rcases hend with ⟨-, hfail, -⟩ | ⟨hk, -, hreg⟩
    · exact absurd hfail hn
    have hkept : t.self.Kept t.self.pollNfds t₃.self := by
      refine UdtcpServer.Kept.trans ?_ (kept_initializeConnection hinit)
      rw [hs₂, hs₁]
      exact t.self.kept_modifyInfos _ (Nat.le_refl _)
    obtain ⟨key, name, rest, r, rfl, henter, hcall, -⟩ := exec_registerClient hreg
    have hrest : admissions (⟨.gethostbyaddr key, name⟩ :: rest) = 0 := by
      rcases hcall with ⟨-, v, rfl⟩ | ⟨-, rfl⟩
      · cases name <;> rfl
      · cases name <;> rfl
    have hone : admissions tr₂ = 1 := by
      rcases sightings_initializeConnection hinit with ⟨hfail, -⟩ | ⟨bs, hrecord, ⟨hfail, -⟩ |
        ⟨-, hlen, -⟩⟩
      · exact absurd hfail hk
      · exact absurd hfail hk
      · rw [admissions, receivedRecords, hrecord]
        exact List.countP_eq_length.mpr (by simpa using hlen)
    have hall : admissions (⟨.sys (.accept t.self.serverInfos.tcpSocket), .ok (fd, addr)⟩ ::
        (tr₁ ++ (tr₂ ++ ⟨.gethostbyaddr key, name⟩ :: rest))) = 1 := by
      have hhead : admissions [⟨.sys (.accept t.self.serverInfos.tcpSocket), .ok (fd, addr)⟩] = 0 :=
        rfl
      rw [← List.singleton_append, admissions_append, admissions_append, admissions_append, hhead,
        admissions_eq_zero (sightings_addOption hopt), hone, hrest]
    rw [henter]
    have hn₃ : t₃.self.pollNfds = t.self.pollNfds := hkept.pollNfds
    rw [← hn₃]
    have hfirst : Swept t.self t₃.self [] := hkept.swept rfl
    exact hfirst.trans (swept_enter t₃.self r hall)

/-- An accept reads no message header. -/
theorem headersRead_acceptClient (h : Exec acceptClient t tr n t') : headersRead tr = [] := by
  have hcalls : AcceptCalls fun e ↦ headerReadOf e.call = none := by
    refine ⟨fun c r hc ↦ ?_, fun _ _ ↦ rfl, fun _ _ ↦ rfl, fun _ _ _ ↦ rfl, fun _ _ _ ↦ rfl⟩
    cases c
    case recv fd target len =>
      cases target with
      | word => cases hc
      | buffer ptr cap offset => cases hc
      | record => rfl
    all_goals rfl
  exact headersRead_eq_nil (emits_acceptClient hcalls _ _ _ _ h)

/-- What a part of the scan that serves a slot does: of message headers it reads those of `fd`. -/
structure Serves (fd : Fd) (s s' : UdtcpServer m) (tr : Trace posix) : Prop where
  swept : Swept s s' tr
  headers : ∀ fd' ∈ headersRead tr, fd' = fd

namespace Serves

variable {fd : Fd} {s s' s'' : UdtcpServer m} {tr tr' : Trace posix}

/-- Slots served one after the other. -/
theorem trans (h : Serves fd s s' tr) (h' : Serves fd s' s'' tr') :
    Serves fd s s'' (tr ++ tr') where
  swept := h.swept.trans h'.swept
  headers := by
    rw [headersRead_append]
    exact List.forall_mem_append.mpr ⟨h.headers, h'.headers⟩

/-- A part that reads no header serves any slot. -/
theorem of_headerless (h : Swept s s' tr) (hheaders : headersRead tr = []) : Serves fd s s' tr :=
  ⟨h, by rw [hheaders]; nofun⟩

end Serves

private theorem serves_pollLoop (fd : Fd) (s : UdtcpServer m) (on : Bool) :
    Serves fd s s [⟨.pollLoop, on⟩] :=
  .of_headerless (.of_unadmitted rfl rfl (fun _ ↦ rfl) fun _ _ ↦ rfl) rfl

-- A call of a receiver: nothing an observer of connections sees, and no header but those of `fd`.
private def QuietBut (fd : Fd) (e : Event posix) : Prop :=
  sightingOf e.call e.reply = none ∧ ∀ fd', headerReadOf e.call = some fd' → fd' = fd

private theorem serves_of_quietBut {fd : Fd} {s : UdtcpServer m} {b : ReceiveBuffer}
    (h : ∀ e ∈ tr, QuietBut fd e) : Serves fd s { s with buffer := b } tr where
  swept := .of_unadmitted (admissions_eq_zero (sightings_eq_nil fun e he ↦ (h e he).1)) rfl
    (fun _ ↦ rfl) fun _ _ ↦ rfl
  headers fd' hmem := by
    obtain ⟨e, he, hfd⟩ := List.mem_filterMap.mp hmem
    exact (h e he).2 fd' hfd

private theorem receiverCalls_quietBut (fd : Fd) : ReceiverCalls (QuietBut fd) fd where
  poll r := ⟨by cases r <;> rfl, nofun⟩
  recvWord r := ⟨by cases r <;> rfl, fun _ hfd ↦ (Option.some.inj hfd).symm⟩
  recvBuffer _ _ _ _ r := ⟨by cases r <;> rfl, nofun⟩
  peek r := ⟨by cases r <;> rfl, nofun⟩
  take _ _ _ _ r := ⟨by cases r <;> rfl, nofun⟩
  newBuffer _ r := ⟨by cases r <;> rfl, nofun⟩
  freeBuffer _ _ := ⟨rfl, nofun⟩

private theorem serves_receiveTcp (h : Exec (receiveTcp slot) t tr n t') :
    Serves (t.self.infos slot).tcpSocket t.self t'.self tr := by
  obtain ⟨u, hu, rfl⟩ := exec_receiveTcp.mp h
  refine serves_of_quietBut (emits_receiveTcpWith (receiverCalls_quietBut _) ?_ _ _ _ _ _ hu)
  intro f hf data v
  unfold UdtcpServer.tcpDeliver at hf
  split at hf
  · cases hf
    exact ⟨rfl, nofun⟩
  · cases hf

private theorem serves_receiveUdp (fd : Fd) (h : Exec receiveUdp t tr n t') :
    Serves fd t.self t'.self tr := by
  obtain ⟨u, hu, rfl⟩ := exec_receiveUdp.mp h
  have hcalls (fd' : Fd) : DatagramCalls (QuietBut fd) fd' := by
    refine ⟨fun r ↦ ⟨?_, nofun⟩, fun _ _ _ _ r ↦ ⟨?_, nofun⟩, fun _ r ↦ ⟨?_, nofun⟩,
      fun _ _ ↦ ⟨rfl, nofun⟩⟩
    all_goals cases r <;> rfl
  refine serves_of_quietBut (emits_receiveUdpWith (hcalls _) ?_ _ _ _ _ _ hu)
  intro addr f hf data v
  obtain ⟨slot, -, hroute⟩ := Option.map_eq_some_iff.mp hf
  split at hroute
  · cases hroute
    exact ⟨rfl, nofun⟩
  · cases hroute

private theorem headersRead_receiveUdp (h : Exec receiveUdp t tr n t') : headersRead tr = [] := by
  obtain ⟨u, hu, -⟩ := exec_receiveUdp.mp h
  refine headersRead_eq_nil (emits_receiveUdpWith ⟨fun _ ↦ rfl, fun _ _ _ _ _ ↦ rfl,
    fun _ _ ↦ rfl, fun _ _ ↦ rfl⟩ ?_ _ _ _ _ _ hu)
  intro addr f hf data v
  rfl

private theorem headersRead_drain {body : ServerProc m Int} {again : Int → Bool}
    (hbody : ∀ t₁ tr n t₂, Exec body t₁ tr n t₂ → headersRead tr = [])
    (h : Exec (drain fuel body again) t tr n t') : headersRead tr = [] := by
  obtain ⟨done, on, rfl, hdone⟩ := exec_drain_invariant (fun _ _ tr ↦ headersRead tr = [])
    (fun _ _ _ hfirst ↦ hbody _ _ _ _ hfirst)
    (fun _ _ tr tr' _ _ hI _ hround ↦ by
      rw [headersRead_append, hI, headersRead_cons_of_none rfl]
      exact hbody _ _ _ _ hround) h
  rw [headersRead_append, hdone]
  rfl

private theorem serves_drain {fd : Fd} {body : ServerProc m Int} {again : Int → Bool}
    (hbody : ∀ t₁ tr n t₂, (t₁.self.infos slot).tcpSocket = fd → Exec body t₁ tr n t₂ →
      Serves fd t₁.self t₂.self tr)
    (hfd : (t.self.infos slot).tcpSocket = fd) (hslot : slot < t.self.pollNfds)
    (h : Exec (drain fuel body again) t tr n t') : Serves fd t.self t'.self tr := by
  obtain ⟨done, on, rfl, hdone⟩ := exec_drain_invariant
    (fun _ t₁ tr ↦ Serves fd t.self t₁.self tr)
    (fun _ _ _ hfirst ↦ hbody _ _ _ _ hfd hfirst)
    (fun _ t₁ tr tr' _ t₂ hI _ hround ↦ by
      have hsame : (t₁.self.infos slot).tcpSocket = fd := by rw [hI.swept.infos slot hslot, hfd]
      exact hI.trans ((serves_pollLoop fd t₁.self true).trans (hbody _ _ _ _ hsame hround))) h
  exact hdone.trans (serves_pollLoop fd t'.self on)

private theorem nil_of_not_ready {marked : Bool}
    (hready : (t.self.pollFds slot).revents &&& POLLIN = 0)
    (h : Exec (serveSlot fuel slot) t tr marked t') : tr = [] := by
  unfold serveSlot at h
  rw [exec_self_bind] at h
  dsimp only at h
  rw [if_pos hready, ite_self] at h
  exact (exec_pure.mp h).1

private theorem serves_dropClient {fd : Fd} {u : Unit} (h : Exec (dropClient slot) t tr u t') :
    Serves fd t.self t'.self tr := by
  obtain ⟨r, r', rest, rfl, hrest, hself⟩ := exec_dropClient h
  have hrevents (k : Nat) : (t'.self.pollFds k).revents = (t.self.pollFds k).revents := by
    rw [hself]
    by_cases hk : k = slot
    · subst hk
      simp [UdtcpServer.modifyPollFd]
    · simp [UdtcpServer.modifyPollFd, hk]
  have hseen : headersRead rest = [] ∧ admissions rest = 0 := by
    rw [hrest]
    split
    · exact ⟨rfl, rfl⟩
    · exact ⟨rfl, rfl⟩
  refine .of_headerless (.of_unadmitted ?_ (by rw [hself]; rfl) hrevents
    fun k _ ↦ by rw [hself]; rfl)
    hseen.1
  exact hseen.2

private theorem serves_serveSlot {marked : Bool} (hslot : slot < t.self.pollNfds)
    (h : Exec (serveSlot fuel slot) t tr marked t') :
    Serves (t.self.infos slot).tcpSocket t.self t'.self tr ∧
      (headersRead tr ≠ [] → (t.self.pollFds slot).revents &&& POLLIN ≠ 0 ∧
        (t.self.pollFds slot).fd ≠ t.self.serverInfos.udpServerSocket) := by
  have hflag (hread : headersRead tr ≠ []) : (t.self.pollFds slot).revents &&& POLLIN ≠ 0 :=
    fun hready ↦ hread (by rw [nil_of_not_ready hready h]; rfl)
  rcases exec_serveSlot h with ⟨rfl, -, rfl⟩ | ⟨-, -, n, hdrain⟩ | ⟨-, -, n, hdrain⟩ |
    ⟨-, hudp, hserve⟩
  · exact ⟨.of_headerless (.refl _) rfl, fun hread ↦ absurd rfl hread⟩
  · have hnone : headersRead tr = [] := headersRead_drain
      (fun _ _ _ _ ↦ headersRead_acceptClient) hdrain
    exact ⟨serves_drain (fun _ _ _ _ _ haccept ↦ .of_headerless (swept_acceptClient haccept)
      (headersRead_acceptClient haccept)) rfl hslot hdrain, fun hread ↦ absurd hnone hread⟩
  · have hnone : headersRead tr = [] := headersRead_drain
      (fun _ _ _ _ ↦ headersRead_receiveUdp) hdrain
    exact ⟨serves_drain (fun _ _ _ _ _ hreceive ↦ serves_receiveUdp _ hreceive) rfl hslot hdrain,
      fun hread ↦ absurd hnone hread⟩
  · refine ⟨?_, fun hread ↦ ⟨hflag hread, hudp⟩⟩
    obtain ⟨tr₁, ret, t₁, tr₂, rfl, hdrain, hend⟩ := exec_serveClient hserve
    have hreads := serves_drain (fun _ _ _ _ hfd hreceive ↦ hfd ▸ serves_receiveTcp hreceive) rfl
      hslot hdrain
    rcases hend with ⟨-, rfl, rfl, -⟩ | ⟨-, hdrop, -⟩
    · rw [List.append_nil]
      exact hreads
    · exact hreads.trans (serves_dropClient hdrop)

/-! ### A pass -/

/-- Every message header of a pass was read from the socket of a slot for which the `poll` of that
pass, which was handed this very socket there, reported `POLLIN`. -/
def ReadsReady (s : UdtcpServer m) (timeout : Int) (tr : Trace posix) : Prop :=
  ∀ fd ∈ headersRead tr, ∃ slot < s.pollNfds,
    (s.infos slot).tcpSocket = fd ∧ (s.pollFds slot).fd = fd ∧
    ∃ reply, tr.head? = some ⟨.sys (.poll s.polled timeout), .ok reply⟩ ∧
      reventsAt reply slot &&& POLLIN ≠ 0

/-- No client that was accepted in a pass got an entry with `POLLIN` left in it from before. -/
def EntriesUnready (s : UdtcpServer m) (tr : Trace posix) : Prop :=
  ∀ k < admissions tr, (s.pollFds (s.pollNfds + k)).revents &&& POLLIN = 0

private theorem revents_setRevents_behind (s : UdtcpServer m) (revents : Nat → UInt16) {k : Nat}
    (hk : s.pollNfds ≤ k) : ((s.setRevents revents).pollFds k).revents = (s.pollFds k).revents := by
  simp [UdtcpServer.setRevents, Nat.not_lt.mpr hk]

private theorem revents_setRevents_inside (s : UdtcpServer m) (revents : Nat → UInt16) {k : Nat}
    (hk : k < s.pollNfds) : ((s.setRevents revents).pollFds k).revents = revents k := by
  simp [UdtcpServer.setRevents, hk]

-- The scan so far: the table is swept, and each header came from a slot other than that of the
-- datagrams whose entry had `POLLIN` when the scan began, be it in use then or given to a client
-- since.
private structure Scanned (s s' : UdtcpServer m) (tr : Trace posix) : Prop where
  swept : Swept s s' tr
  headers : ∀ fd ∈ headersRead tr,
    (∃ slot < s.pollNfds, slot ≠ 1 ∧ (s.infos slot).tcpSocket = fd ∧
      (s.pollFds slot).revents &&& POLLIN ≠ 0) ∨
    ∃ k < admissions tr, (s.pollFds (s.pollNfds + k)).revents &&& POLLIN ≠ 0

private theorem Scanned.pollLoop {s s' : UdtcpServer m} {done : Trace posix} (h : Scanned s s' done)
    (on : Bool) : Scanned s s' (done ++ [⟨.pollLoop, on⟩]) := by
  have hnone : headersRead [⟨.pollLoop, on⟩] = [] := rfl
  have hzero : admissions [⟨.pollLoop, on⟩] = 0 := rfl
  refine ⟨h.swept.trans (serves_pollLoop 0 s' on).swept, ?_⟩
  rw [headersRead_append, admissions_append, hnone, hzero, List.append_nil, Nat.add_zero]
  exact h.headers

private theorem Scanned.serve {s : UdtcpServer m} {done : Trace posix} {marked : Bool}
    (h : Scanned s t.self done) (hslot : slot < t.self.pollNfds)
    (hreceiver : (t.self.pollFds 1).fd = t.self.serverInfos.udpServerSocket)
    (hserve : Exec (serveSlot fuel slot) t tr marked t') : Scanned s t'.self (done ++ tr) := by
  obtain ⟨hserves, hready⟩ := serves_serveSlot hslot hserve
  refine ⟨h.swept.trans hserves.swept, ?_⟩
  rw [headersRead_append, admissions_append]
  refine List.forall_mem_append.mpr ⟨fun fd hfd ↦ ?_, fun fd hfd ↦ ?_⟩
  · obtain hin | ⟨k, hk, hstale⟩ := h.headers fd hfd
    · exact .inl hin
    · exact .inr ⟨k, by omega, hstale⟩
  · obtain ⟨hflag, hudp⟩ := hready (List.ne_nil_of_mem hfd)
    rw [h.swept.revents] at hflag
    by_cases hin : slot < s.pollNfds
    · refine .inl ⟨slot, hin, fun hone ↦ hudp (hone ▸ hreceiver), ?_, hflag⟩
      rw [hserves.headers fd hfd, h.swept.infos slot hin]
    · have hn := h.swept.pollNfds
      refine .inr ⟨slot - s.pollNfds, by omega, ?_⟩
      rw [Nat.add_sub_of_le (by omega)]
      exact hflag

end

/-! ### Runs -/

section

variable {m : Nat} {t t' : Thread (UdtcpServer m)} {tr : Trace posix} {w w' : Watch} {fuel : Nat}
  {timeout : Int}

private theorem scanned_rounds {done : Trace posix} (run : ServerRun m Watch.AnyPass done t w)
    {reply : (SysCall.poll t.self.polled timeout).Result} {i : Nat × Bool}
    (hready : pollCount (.ok reply) ≠ 0)
    (hrounds : Rounds (scanSlot fuel) (0, false) ⟨t.errno, t.self.setRevents (reventsAt reply)⟩ tr i
      t') : ∀ w', tableKernel.Accepts w (⟨.sys (.poll t.self.polled timeout), .ok reply⟩ :: tr) w' →
    Scanned (t.self.setRevents (reventsAt reply)) t'.self tr := by
  induction hrounds with
  | refl => exact fun _ _ ↦ ⟨.refl _, nofun⟩
  | tail hrounds hround ih =>
    intro w' ha
    rw [← List.cons_append] at ha
    obtain ⟨w₁, ha₁, -⟩ := tableKernel.accepts_append.mp ha
    have hscanned := ih w₁ ha₁
    obtain ⟨rows, hscan, -⟩ := run.table.scanning (.intro hready hrounds)
      (accepts_tableKernel.mp ha₁)
    obtain ⟨on, rest, rfl, ⟨-, hne, -⟩ | ⟨hlt, marked, -, hserve⟩⟩ := exec_scanSlot hround
    · cases hne
    · rw [List.append_cons]
      exact (hscanned.pollLoop on).serve hlt hscan.table.receiver.1 hserve

/-- **A pass** of a run reads from those sockets only that `poll` reported, unless an entry is
given away with an old report in it. -/
theorem readsReady_pass {done : Trace posix} {result : UdtcpPoll}
    (run : ServerRun m Watch.AnyPass done t w)
    (h : Exec (udtcpServerPoll fuel timeout) t tr result t') (ha : tableKernel.Accepts w tr w')
    (hunready : EntriesUnready t.self tr) : ReadsReady t.self timeout tr := by
  rcases exec_udtcpServerPoll h with ⟨reply, rfl, -⟩ | ⟨tr₁, i, t₁, on, rfl, hscan, -⟩
  · exact fun fd hfd ↦ absurd hfd List.not_mem_nil
  obtain @⟨reply, rest, i, t₁, hready, hrounds⟩ := hscan
  obtain ⟨w₁, ha₁, -⟩ := tableKernel.accepts_append.mp ha
  have hscanned := scanned_rounds run hready hrounds w₁ ha₁
  have hcount : admissions (⟨.sys (.poll t.self.polled timeout), .ok reply⟩ :: rest ++
      [⟨.pollLoop, on⟩]) = admissions rest := by
    rw [admissions_append, ← List.singleton_append, admissions_append]
    exact (Nat.add_zero _).trans (Nat.zero_add _)
  have hheaders : headersRead (⟨.sys (.poll t.self.polled timeout), .ok reply⟩ :: rest ++
      [⟨.pollLoop, on⟩]) = headersRead rest := by
    rw [headersRead_append, ← List.singleton_append, headersRead_append]
    exact List.append_nil _
  intro fd hfd
  rw [hheaders] at hfd
  obtain ⟨slot, hslot, hne, hfd, hflag⟩ | ⟨k, hk, hstale⟩ := hscanned.headers fd hfd
  · rw [revents_setRevents_inside t.self _ hslot] at hflag
    refine ⟨slot, hslot, hfd, ?_, reply, rfl, hflag⟩
    have htable := run.table
    obtain rfl | hpos := Nat.eq_zero_or_pos slot
    · exact htable.listener.1.trans hfd
    · obtain ⟨k, rfl⟩ : ∃ k, slot = 2 + k := ⟨slot - 2, by omega⟩
      have hn := htable.pollNfds
      have hlt : 2 + k < t.self.pollNfds := hslot
      rw [rowsOf, List.length_map] at hn
      have hk : w.live[k]? = some w.live[k] := List.getElem?_eq_getElem (by omega)
      have hshows : Shows (t.self.pollFds (2 + k)) (t.self.infos (2 + k)) w.live[k] :=
        htable.entries k ⟨w.live[k], false⟩ (by rw [rowsOf, List.getElem?_map, hk]; rfl)
      exact hshows.fd.trans (hshows.tcpSocket.symm.trans hfd)
  · have hstale := revents_setRevents_behind t.self (reventsAt reply)
      (Nat.le_add_right _ k) ▸ hstale
    exact absurd (hunready k (by rw [hcount]; exact hk)) hstale

end

end Udtcp
