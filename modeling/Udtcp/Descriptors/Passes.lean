import Udtcp.Descriptors.Table
import Udtcp.Receive.Calls
import Udtcp.Server.Rounds

/-!
# The descriptors of a server over a pass

A pass, `server_poll.c:439–539`, with all that happens in it: a connection that is refused, one
whose handshake fails, one that is entered, receptions, disconnections and the compaction.
-/

namespace Udtcp

open Interaction Routine

section

variable {m : Nat} {t : Thread (UdtcpServer m)} {k : Files} {n : Nat} {fd : Fd}

/-! ### Accepting -/

/-- A connection under way to slot `n`, behind the last client, with its number in the record. -/
structure Admits (n : Nat) (fd : Fd) (s : UdtcpServer m) (k : Files) : Prop where
  tends : Tends s k [fd]
  pollNfds : s.pollNfds = n
  tcpSocket : (s.infos n).tcpSocket = fd

namespace Admits

variable {s : UdtcpServer m}

/-- The descriptor of a connection that is coming in is open. -/
theorem isSome (h : Admits n fd s k) : (k.state fd).isSome :=
  h.tends.opens.isSome List.mem_cons_self

/-- Other fields of its record may change. -/
theorem modifyInfos (h : Admits n fd s k) {f : UdtcpInfos → UdtcpInfos}
    (hf : (f (s.infos n)).tcpSocket = (s.infos n).tcpSocket) :
    Admits n fd (s.modifyInfos n f) k := by
  refine ⟨h.tends.modifyInfos h.pollNfds.le f, h.pollNfds, ?_⟩
  rw [s.infos_modifyInfos_self, hf]
  exact h.tcpSocket

end Admits

private theorem must_writeRecord {bs : List UInt8} (h : Admits n fd t.self k)
    (hbs : bs.length = UdtcpInfos.sizeof ∨ bs.length ≤ UdtcpInfos.tcpSocketOffset) :
    Must filesKernel (writeRecord n bs) t k fun _ t' k' ↦
      t'.self = t.self.modifyInfos n (·.patch 0 bs) ∧ k' = k ∧
        (bs.length ≠ UdtcpInfos.sizeof → Admits n fd t'.self k') := by
  have hle : bs.length ≤ UdtcpInfos.sizeof := by
    have hoffset : UdtcpInfos.tcpSocketOffset ≤ UdtcpInfos.sizeof := by decide
    omega
  intro tr u t' k' hrun ha
  obtain ⟨-, -, -, hshort⟩ := exec_writeRecord hrun
  obtain ⟨rfl, hself⟩ := hshort hle
  obtain rfl : k' = k := ha
  refine ⟨hself, rfl, fun hlen ↦ ?_⟩
  rw [hself]
  refine h.modifyInfos ((UdtcpInfos.tcpSocket_patch_eq_iff _ _).mpr ?_)
  have hslice : Bytes.slice bs UdtcpInfos.tcpSocketOffset 4 = [] := by
    rw [Bytes.slice, List.drop_eq_nil_of_le (hbs.resolve_left hlen), List.take_nil]
  rw [hslice]
  exact List.nil_prefix

-- What a handshake leaves: the same files and entries, and on success a record that names the
-- socket the server sends datagrams from.
private def Shakes (n : Nat) (fd : Fd) (s : UdtcpServer m) (k : Files) (ret : Int)
    (t : Thread (UdtcpServer m)) (k' : Files) : Prop :=
  k' = k ∧ t.self.pollFds = s.pollFds ∧ Admits n fd t.self k ∧
    (ret ≠ -1 → (t.self.infos n).udpServerSocket = t.self.serverInfos.udpClientSocket)

private theorem must_initializeConnection (h : Admits n fd t.self k)
    (hfd : Nonblocking (k.state fd)) :
    Must filesKernel (initializeConnection n) t k (Shakes n fd t.self k) := by
  have hn : 2 ≤ n := h.pollNfds ▸ h.tends.pollNfds
  have hfail {t' : Thread (UdtcpServer m)} (h' : Admits n fd t'.self k)
      (hfds : t'.self.pollFds = t.self.pollFds) :
      Must filesKernel (pure (-1 : Int)) t' k (Shakes n fd t.self k) :=
    must_pure ⟨rfl, hfds, h', fun hret ↦ absurd rfl hret⟩
  have hpoll : Emits k.Admits (pollIn fd : ServerProc m Int) :=
    (emits_syscall fun _ ↦ Files.admits_used rfl h.isSome).bind fun _ ↦ emits_pure _
  unfold initializeConnection
  refine must_self_bind ?_
  rw [h.tcpSocket]
  refine must_admitted_syscall (fun _ ↦ Files.admits_used rfl h.isSome) fun sent _ ↦ ?_
  have hself₁ : (t.note sent).self = t.self := Thread.note_self ..
  refine must_ite (fun _ ↦ hfail (by rwa [hself₁]) (by rw [hself₁])) fun _ ↦
    must_bind (must_admitted hpoll fun tr ready t₂ hrun ↦ ?_)
  have hself₂ : t₂.self = t.self := by
    obtain ⟨polled, -, -, ht₂⟩ := exec_pollIn.mp hrun
    rw [ht₂, Thread.note_self]
    exact hself₁
  refine must_ite (fun _ ↦ hfail (by rwa [hself₂]) (by rw [hself₂])) fun _ ↦ must_self_bind ?_
  dsimp only
  rw [hself₂, h.tcpSocket]
  refine must_admitted_syscall (fun _ ↦ Files.admits_awaited rfl hfd) fun got hpromise ↦ ?_
  have hself₃ : (t₂.note got).self = t.self := (Thread.note_self ..).trans hself₂
  have h₃ : Admits n fd (t₂.note got).self k := by rwa [hself₃]
  cases got with
  | error e => exact hfail h₃ (by rw [hself₃])
  | ok bs =>
    refine must_bind ((must_writeRecord h₃ hpromise).mono ?_)
    rintro _ t₄ k₄ ⟨hself₄, rfl, hshort⟩
    have hfds : t₄.self.pollFds = t.self.pollFds := by
      rw [hself₄, ← hself₃]
      rfl
    refine must_ite (fun hlen ↦ hfail (hshort hlen) hfds) fun _ ↦
      must_self_bind (must_update_bind ?_)
    have hpatched : Tends t₄.self k₄ [fd] := by
      rw [hself₄]
      exact h₃.tends.modifyInfos h₃.pollNfds.le _
    have hlast : t₄.self.pollNfds = n := by
      rw [hself₄]
      exact h₃.pollNfds
    refine must_pure ⟨rfl, hfds, ⟨?_, hlast, ?_⟩, fun _ ↦ ?_⟩
    · dsimp only
      exact hpatched.modifyInfos hlast.le _
    · rw [UdtcpServer.infos_modifyInfos_self]
    · rw [UdtcpServer.infos_modifyInfos_self, UdtcpServer.serverInfos_modifyInfos _ _ (by omega)]

private theorem must_registerClient_files (h : Admits n fd t.self k)
    (hfd : Nonblocking (k.state fd))
    (hudp : (t.self.infos n).udpServerSocket = t.self.serverInfos.udpClientSocket) :
    Must filesKernel (registerClient n) t k fun _ t' k' ↦
      ∃ r : UdtcpInfos, r.tcpSocket = fd ∧ t'.self = t.self.enter n r ∧ Tends t'.self k' [] := by
  obtain ⟨htends, rfl, htcp⟩ := h
  intro tr u t' k' hrun ha
  obtain ⟨key, name, rest, r, rfl, hself, hcall, hlink⟩ := exec_registerClient hrun
  obtain ⟨k₁, hname, hrest⟩ := ha
  have hshort : ∀ text, name = some text → NameFits text := by
    rintro text rfl
    exact hname.1
  obtain rfl : k₁ = k := filesKernel_eq_of_admits (Files.admits_of_nil rfl) hname
  obtain rfl : k' = k₁ := by
    rcases hcall with ⟨-, v, rfl⟩ | ⟨-, rfl⟩
    · obtain ⟨k₂, hconnect, rfl⟩ := hrest
      exact filesKernel_eq_of_admits (Files.admits_of_nil rfl) hconnect
    · exact hrest
  have hr := hlink hshort
  have hnumber : r.tcpSocket = fd := hr.tcpSocket.trans htcp
  rw [hself]
  exact ⟨r, hnumber, rfl, htends.enter hfd hnumber (hr.udpServerSocket.trans hudp)⟩

-- What a part of a pass does to the marks: every mark behind it was there before, or is that of
-- `slot`, if it reports one.
private structure MarksOnly (marked : Bool) (slot : Nat) (s s' : UdtcpServer m) : Prop where
  pollNfds : s.pollNfds ≤ s'.pollNfds
  marks : ∀ j < s'.pollNfds, (s'.pollFds j).fd = -1 →
    (j = slot ∧ marked = true) ∨ (j < s.pollNfds ∧ (s.pollFds j).fd = -1)

namespace MarksOnly

variable {marked : Bool} {slot : Nat} {s s' s'' : UdtcpServer m}

private theorem of_fds (hn : s'.pollNfds = s.pollNfds)
    (hfds : ∀ j < s.pollNfds, (s'.pollFds j).fd = (s.pollFds j).fd) :
    MarksOnly marked slot s s' := by
  refine ⟨hn.ge, fun j hj hmark ↦ .inr ?_⟩
  rw [hn] at hj
  exact ⟨hj, hfds j hj ▸ hmark⟩

private theorem refl (s : UdtcpServer m) : MarksOnly marked slot s s := of_fds rfl fun _ _ ↦ rfl

private theorem enter {r : UdtcpInfos} (hn : s.pollNfds = n) (hfd : r.tcpSocket ≠ -1) :
    MarksOnly marked slot s (s.enter n r) := by
  subst hn
  refine ⟨Nat.le_succ _, fun j hj hmark ↦ .inr ?_⟩
  have hj : j < s.pollNfds + 1 := hj
  have hmark : (Function.update s.pollFds s.pollNfds
      ⟨r.tcpSocket, POLLIN, (s.pollFds s.pollNfds).revents⟩ j).fd = -1 := hmark
  have hne : j ≠ s.pollNfds := by
    rintro rfl
    rw [Function.update_self] at hmark
    exact hfd hmark
  rw [Function.update_of_ne hne] at hmark
  exact ⟨by omega, hmark⟩

private theorem trans (h : MarksOnly false slot s s') (h' : MarksOnly marked slot s' s'') :
    MarksOnly marked slot s s'' := by
  refine ⟨Nat.le_trans h.pollNfds h'.pollNfds, fun j hj hmark ↦ ?_⟩
  obtain hnew | ⟨hj', hmark'⟩ := h'.marks j hj hmark
  · exact .inl hnew
  · exact .inr ((h.marks j hj' hmark').resolve_left fun hnew ↦ Bool.false_ne_true hnew.2)

end MarksOnly

private theorem must_admitClient_files (h : Admits n fd t.self k) (slot : Nat) :
    Must filesKernel (admitClient n) t k fun _ t' k' ↦
      Tends t'.self k' [] ∧ MarksOnly false slot t.self t'.self := by
  have hclose {t' : Thread (UdtcpServer m)} {k' : Files} (h' : Admits n fd t'.self k')
      (hmarks : MarksOnly false slot t.self t'.self) : Must filesKernel (do
        let _ ← syscall (.close (t'.self.infos n).tcpSocket)
        return (-1 : Int)) t' k' fun _ t' k' ↦
          Tends t'.self k' [] ∧ MarksOnly false slot t.self t'.self := by
    rw [h'.tcpSocket]
    refine must_close h'.isSome fun r ↦ must_pure ?_
    rw [Thread.note_self]
    exact ⟨h'.tends.giveBack, hmarks⟩
  unfold admitClient
  refine must_self_bind (must_bind ?_)
  rw [h.tcpSocket]
  refine (must_addNonblock h.isSome).mono ?_
  rintro o t₁ k₁ ⟨hself, ⟨rfl, rfl⟩ | ⟨rfl, flags, ⟨bits, rfl, hbits⟩, rfl⟩⟩
  · rw [← hself] at h
    exact must_ite (fun _ ↦ must_self_bind (hclose h (hself ▸ .refl _))) fun hne ↦ absurd rfl hne
  · have h₁ : Admits n fd t₁.self (k.set fd (some bits)) := by
      rw [hself]
      exact ⟨h.tends.flag bits, h.pollNfds, h.tcpSocket⟩
    have hwait : Nonblocking ((k.set fd (some bits)).state fd) := by
      rw [Files.set_self]
      exact ⟨bits, rfl, hbits⟩
    refine must_ite (fun hfail ↦ by cases hfail) fun _ ↦ must_bind ?_
    refine (must_initializeConnection h₁ hwait).mono ?_
    rintro ret t₂ k₂ ⟨rfl, hfds, h₂, hudp⟩
    have hmarks : MarksOnly false slot t.self t₂.self :=
      .of_fds (h₂.pollNfds.trans h.pollNfds.symm) fun j _ ↦ by rw [hfds, hself]
    refine must_ite (fun _ ↦ must_self_bind (hclose h₂ hmarks)) fun hret ↦ must_bind ?_
    refine (must_registerClient_files h₂ hwait (hudp hret)).mono ?_
    rintro _ t₃ k₃ ⟨r, hnumber, hself₃, h₃⟩
    refine must_pure ⟨h₃, hmarks.trans ?_⟩
    rw [hself₃]
    exact .enter h₂.pollNfds (hnumber ▸ h.tends.opens.ne_of_mem List.mem_cons_self)

private theorem must_acceptClient_files (h : Tends t.self k []) (slot : Nat) :
    Must filesKernel acceptClient t k fun _ t' k' ↦
      Tends t'.self k' [] ∧ MarksOnly false slot t.self t'.self := by
  unfold acceptClient
  refine must_self_bind (must_ite (fun _ ↦ ?_) fun _ ↦ ?_)
  · unfold refuseClient
    refine must_self_bind (must_accept h.accepting (fun e ↦ must_pure ⟨h, .refl _⟩) fun a hnew ↦ ?_)
    have h₁ := h.take hnew
    have hopen := h₁.opens.isSome List.mem_cons_self
    refine must_admitted_syscall (fun _ ↦ Files.admits_used rfl hopen) fun r _ ↦ ?_
    refine must_close hopen fun r' ↦ must_pure ?_
    rw [Thread.note_self, Thread.note_self]
    exact ⟨h₁.giveBack, .refl _⟩
  · refine must_accept h.accepting (fun e ↦ must_update_bind (must_pure ?_)) fun a hnew ↦
      must_update_bind ?_
    · have hforgot := h.modifyInfos (Nat.le_refl _) ({ · with tcpSocket := -1 })
      exact ⟨hforgot, .of_fds rfl fun _ _ ↦ rfl⟩
    · have h₁ : Admits t.self.pollNfds a.1.val (t.self.modifyInfos t.self.pollNfds
          ({ · with tcpAddr := a.2, tcpSocket := a.1.val })) (k.set a.1.val (some 0)) := by
        refine ⟨(h.take hnew).modifyInfos (Nat.le_refl _) _, rfl, ?_⟩
        rw [UdtcpServer.infos_modifyInfos_self]
      have hstart : MarksOnly false slot t.self (t.self.modifyInfos t.self.pollNfds
          ({ · with tcpAddr := a.2, tcpSocket := a.1.val })) := .of_fds rfl fun _ _ ↦ rfl
      exact (must_admitClient_files h₁ slot).mono fun _ _ _ ⟨h', hmarks⟩ ↦
        ⟨h', hstart.trans hmarks⟩

/-! ### Receiving and disconnecting -/

private theorem receiverCalls_admits (hfd : Nonblocking (k.state fd)) :
    ReceiverCalls k.Admits fd where
  peek _ := Files.admits_awaited rfl hfd
  take _ _ _ _ _ := Files.admits_awaited rfl hfd
  newBuffer _ _ := Files.admits_of_nil rfl
  freeBuffer _ _ := Files.admits_of_nil rfl
  poll _ := Files.admits_used rfl hfd.isSome
  recvWord _ := Files.admits_awaited rfl hfd
  recvBuffer _ _ _ _ _ := Files.admits_awaited rfl hfd

variable {s : UdtcpServer m} {slot : Nat}

-- The server at work on a slot that it served from the state `s`.
private def Serving (slot : Nat) (s : UdtcpServer m) (t : Thread (UdtcpServer m)) (k : Files) :
    Prop :=
  Tends t.self k [] ∧ MarksOnly false slot s t.self

private theorem Serving.of_buffer (h : Serving slot s t k) (e : Errno) (b : ReceiveBuffer) :
    Serving slot s ⟨e, { t.self with buffer := b }⟩ k :=
  ⟨h.1.congr rfl (fun _ _ ↦ rfl) fun _ _ ↦ rfl, h.2.trans (.of_fds rfl fun _ _ ↦ rfl)⟩

private theorem must_receiveTcp_files (h : Serving slot s t k) (hlow : 2 ≤ slot)
    (hlt : slot < s.pollNfds) (hfd : (s.pollFds slot).fd ≠ -1) :
    Must filesKernel (receiveTcp slot) t k fun _ t' k' ↦ Serving slot s t' k' := by
  have hlive : slot < t.self.pollNfds := Nat.lt_of_lt_of_le hlt h.2.pollNfds
  have hunmarked : (t.self.pollFds slot).fd ≠ -1 := fun hmark ↦
    (h.2.marks slot hlive hmark).elim (fun hnew ↦ Bool.false_ne_true hnew.2) fun hold ↦ hfd hold.2
  have hwait := h.1.waiting _ (h.1.mem_clientFds hlow hlive hunmarked)
  have hcalls : Emits k.Admits (receiveTcpWith (t.self.infos slot).tcpSocket
      (t.self.tcpDeliver slot) cInt) :=
    emits_receiveTcpWith (receiverCalls_admits hwait) (fun _ _ _ _ ↦ Files.admits_of_nil rfl) _
  unfold receiveTcp
  refine must_self_bind (must_onPart (must_admitted hcalls fun tr n u hrun ↦ ?_))
  exact h.of_buffer _ _

private theorem must_receiveUdp_files (h : Serving slot s t k) :
    Must filesKernel receiveUdp t k fun _ t' k' ↦ Serving slot s t' k' := by
  have hcalls : Emits k.Admits (receiveUdpWith t.self.serverInfos.udpServerSocket t.self.udpRoute
      cInt) :=
    emits_receiveUdpWith (receiverCalls_admits h.1.receiving).toDatagramCalls
      (fun _ _ _ _ _ ↦ Files.admits_of_nil rfl) _
  unfold receiveUdp
  refine must_self_bind (must_onPart (must_admitted hcalls fun tr n u hrun ↦ ?_))
  exact h.of_buffer _ _

private theorem must_dropClient_files (h : Serving slot s t k) (hlow : 2 ≤ slot)
    (hlive : slot < t.self.pollNfds) (hfd : (t.self.pollFds slot).fd ≠ -1) :
    Must filesKernel (dropClient slot) t k fun _ t' k' ↦
      Tends t'.self k' [] ∧ MarksOnly true slot s t'.self := by
  have hnumber := (h.1.linked slot hlow hlive hfd).1
  have hopen : (k.state (t.self.infos slot).tcpSocket).isSome :=
    (h.1.waiting _ (h.1.mem_clientFds hlow hlive hfd)).isSome
  have hend : Tends (t.self.modifyPollFd slot fun p ↦ { p with fd := -1 })
      (k.set (t.self.infos slot).tcpSocket none) [] ∧
        MarksOnly true slot s (t.self.modifyPollFd slot fun p ↦ { p with fd := -1 }) := by
    refine ⟨hnumber ▸ (h.1.mark hlow hlive hfd).giveBack, h.2.pollNfds, fun j hj hmark ↦ ?_⟩
    by_cases hj' : j = slot
    · exact .inl ⟨hj', rfl⟩
    · have hmark : (Function.update t.self.pollFds slot _ j).fd = -1 := hmark
      rw [Function.update_of_ne hj'] at hmark
      exact .inr ((h.2.marks j hj hmark).resolve_left fun hnew ↦ hj' hnew.1)
  unfold dropClient disconnect
  refine must_bind (must_self_bind ?_)
  refine must_admitted_syscall (fun _ ↦ Files.admits_used rfl hopen) fun r _ ↦ must_self_bind ?_
  rw [Thread.note_self]
  refine must_close hopen fun r' ↦ must_self_bind ?_
  rw [Thread.note_self, Thread.note_self]
  have hmarked {t' : Thread (UdtcpServer m)} (hself : t'.self = t.self) :
      Must filesKernel (update (·.modifyPollFd slot fun p ↦ { p with fd := -1 })) t'
        (k.set (t.self.infos slot).tcpSocket none) fun _ t' k' ↦
          Tends t'.self k' [] ∧ MarksOnly true slot s t'.self := by
    refine must_update ?_
    rw [hself]
    exact hend
  have hself : ((t.note r).note r').self = t.self := by rw [Thread.note_self, Thread.note_self]
  refine must_ite (fun _ ↦ must_issue fun u k' hstep ↦ ?_) fun _ ↦ must_pure (hmarked hself)
  rw [filesKernel_eq_of_admits (Files.admits_of_nil rfl) hstep]
  exact hmarked hself

/-! ### The pass -/

private theorem must_drained {body : ServerProc m Int} {again : Int → Bool} {fuel : Nat}
    (h : Serving slot s t k)
    (hbody : ∀ t k, Serving slot s t k →
      Must filesKernel body t k fun _ t' k' ↦ Serving slot s t' k') :
    Must filesKernel (drain fuel body again) t k fun _ t' k' ↦ Serving slot s t' k' := by
  refine must_drain (I := fun _ t k ↦ Serving slot s t k) (fun _ t k on k' hI hstep ↦ ?_)
    (hbody t k h) fun _ t k hI _ ↦ hbody t k hI
  rw [filesKernel_eq_of_admits (Files.admits_of_nil rfl) hstep]
  exact hI

-- What serving a slot leaves behind, with the mark it reports.
private def Attended (slot : Nat) (s : UdtcpServer m) (marked : Bool) (t : Thread (UdtcpServer m))
    (k : Files) : Prop :=
  Tends t.self k [] ∧ MarksOnly marked slot s t.self

private theorem must_serveClient_files {fuel : Nat} (h : Tends t.self k []) (hlow : 2 ≤ slot)
    (hlt : slot < t.self.pollNfds) (hfd : (t.self.pollFds slot).fd ≠ -1) :
    Must filesKernel (serveClient fuel slot) t k (Attended slot t.self) := by
  have hdrop {t' : Thread (UdtcpServer m)} {k' : Files} (h' : Serving slot t.self t' k') :
      Must filesKernel (do
        dropClient slot
        return true) t' k' (Attended slot t.self) := by
    have hlive : slot < t'.self.pollNfds := Nat.lt_of_lt_of_le hlt h'.2.pollNfds
    have hunmarked : (t'.self.pollFds slot).fd ≠ -1 := fun hmark ↦
      (h'.2.marks slot hlive hmark).elim (fun hnew ↦ Bool.false_ne_true hnew.2)
        fun hold ↦ hfd hold.2
    exact must_bind ((must_dropClient_files h' hlow hlive hunmarked).mono fun _ _ _ hI ↦
      must_pure hI)
  unfold serveClient
  refine must_bind ((must_drained ⟨h, .refl _⟩ fun _ _ hI ↦
    must_receiveTcp_files hI hlow hlt hfd).mono fun ret t₁ k₁ h₁ ↦ ?_)
  refine must_ite (fun _ ↦ must_errno_bind (must_ite (fun _ ↦ hdrop h₁) fun _ ↦ must_pure h₁))
    fun _ ↦ must_ite (fun _ ↦ hdrop h₁) fun _ ↦ must_pure h₁

private theorem must_serveSlot_files {fuel : Nat} (h : Tends t.self k [])
    (hlt : slot < t.self.pollNfds) (hfd : 2 ≤ slot → (t.self.pollFds slot).fd ≠ -1) :
    Must filesKernel (serveSlot fuel slot) t k (Attended slot t.self) := by
  have hnothing : Must filesKernel (pure false : ServerProc m Bool) t k (Attended slot t.self) :=
    must_pure ⟨h, .refl _⟩
  have hstart : Serving slot t.self t k := ⟨h, .refl _⟩
  unfold serveSlot
  refine must_self_bind (must_ite (fun _ ↦ hnothing) fun _ ↦ must_ite (fun _ ↦ hnothing) fun _ ↦ ?_)
  refine must_ite (fun _ ↦ must_bind ?_) fun hlisten ↦ must_ite (fun _ ↦ must_bind ?_) fun hudp ↦ ?_
  · refine (must_drained hstart fun t₁ k₁ h₁ ↦ ?_).mono fun _ _ _ hI ↦ must_pure hI
    exact (must_acceptClient_files h₁.1 slot).mono fun _ _ _ ⟨h₂, hmarks⟩ ↦ ⟨h₂, h₁.2.trans hmarks⟩
  · exact (must_drained hstart fun _ _ ↦ must_receiveUdp_files).mono fun _ _ _ hI ↦ must_pure hI
  · -- the first two entries are those of the server itself
    have hlow : 2 ≤ slot := by
      by_contra hown
      obtain rfl | rfl : slot = 0 ∨ slot = 1 := by omega
      · exact hlisten h.listener
      · exact hudp h.receiver
    exact must_serveClient_files h hlow hlt (hfd hlow)

-- The scan in front of slot `i`, with `organise_array`: nothing is marked from there on, and
-- nothing at all unless that is noted.
private structure Scans (i : Nat × Bool) (s : UdtcpServer m) (k : Files) : Prop where
  tends : Tends s k []
  ahead : ∀ j, 2 ≤ j → i.1 ≤ j → j < s.pollNfds → (s.pollFds j).fd ≠ -1
  noted : i.2 = false → s.Settled

private theorem Scans.next {s' : UdtcpServer m} {i : Nat × Bool} {k' : Files} {marked : Bool}
    (h : Scans i s k) (h' : Tends s' k' []) (hmarks : MarksOnly marked i.1 s s') :
    Scans (i.1 + 1, i.2 || marked) s' k' := by
  refine ⟨h', fun j hlow hj hlt hmark ↦ ?_, fun hnone j hlow hlt hmark ↦ ?_⟩
  · have hj : i.1 + 1 ≤ j := hj
    obtain ⟨hnew, -⟩ | ⟨hold, hmark'⟩ := hmarks.marks j hlt hmark
    · omega
    · exact h.ahead j hlow (by omega) hold hmark'
  · obtain ⟨hbefore, hnow⟩ := Bool.or_eq_false_iff.mp hnone
    obtain ⟨-, hnew⟩ | ⟨hold, hmark'⟩ := hmarks.marks j hlt hmark
    · exact Bool.false_ne_true (hnow.symm.trans hnew)
    · exact h.noted hbefore j hlow hold hmark'

/-- **A pass** leaves a table without marks, and open what is in it and nothing else. -/
theorem must_udtcpServerPoll_files {fuel : Nat} {timeout : Int} (h : Tends t.self k [])
    (hset : t.self.Settled) : Must filesKernel (udtcpServerPoll fuel timeout) t k fun _ t' k' ↦
      Tends t'.self k' [] ∧ t'.self.Settled := by
  have hpolled (r) : k.Admits ⟨.sys (.poll t.self.polled timeout), r⟩ := by
    refine List.forall_mem_map.mpr fun p hp ↦ ?_
    exact fileNext_used (h.isSome_of_polled hset p hp)
  unfold udtcpServerPoll
  refine must_self_bind (must_admitted_syscall hpolled fun reply _ ↦ ?_)
  cases reply with
  | error e =>
    exact must_errno_bind (must_ite (fun _ ↦ must_pure ⟨h, hset⟩) fun _ ↦ must_pure ⟨h, hset⟩)
  | ok revents =>
    have hset₁ : (t.self.setRevents (reventsAt revents)).Settled := by
      intro i hlow hi
      have hentry : (t.self.setRevents (reventsAt revents)).pollFds i =
          { t.self.pollFds i with revents := reventsAt revents i } := if_pos hi
      rw [hentry]
      exact hset i hlow hi
    have h₁ := h.setRevents (reventsAt revents)
    refine must_update_bind (must_ite (fun _ ↦ must_pure ⟨h₁, hset₁⟩) fun _ ↦ must_bind ?_)
    refine (must_loop (fun i t k ↦ Scans i t.self k) (Q := fun organise t k ↦ Tends t.self k [] ∧
      (organise = false → t.self.Settled)) ⟨h₁, fun j hlow _ hlt ↦ hset₁ j hlow hlt, fun _ ↦ hset₁⟩
      fun i t₁ k₁ h₂ ↦ ?_).mono fun organise t₁ k₁ ⟨h₂, hnoted⟩ ↦ ?_
    · unfold scanSlot
      refine must_admitted_request (fun _ ↦ Files.admits_of_nil rfl) fun on _ ↦ must_self_bind ?_
      refine must_ite (fun hin ↦ must_bind ?_) fun _ ↦ must_pure ⟨h₂.tends, h₂.noted⟩
      have hlt : i.1 < t₁.self.pollNfds := of_decide_eq_true (Bool.and_eq_true_iff.mp hin).2
      refine (must_serveSlot_files h₂.tends hlt fun hlow ↦
        h₂.ahead i.1 hlow (Nat.le_refl _) hlt).mono ?_
      rintro marked t₂ k₂ ⟨h₃, hmarks⟩
      exact must_pure (h₂.next h₃ hmarks)
    · refine must_ite (fun _ ↦ must_update_bind (must_pure h₂.compact)) fun horganise ↦ must_pure ?_
      exact ⟨h₂, hnoted (by simpa using horganise)⟩

end

end Udtcp
