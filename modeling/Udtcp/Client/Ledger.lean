import Udtcp.Client.Silent
import Udtcp.Client.Rules
import Udtcp.Posix.Ledger
import Udtcp.Receive.Calls

/-!
# The descriptors of a client

What a client holds from its creation to its deletion: two datagram sockets, and the stream socket
whose number is in `tcp_socket` while it is open. The numbers a client polls and receives from stand
in other places, `poll_fds[0]` and `server_infos`, which nothing updates when the socket is closed.
-/

namespace Udtcp

open Interaction Routine

section

variable {l l' : Ledger} {t t' : Thread UdtcpClient} {tr : Trace posix}

/-- The descriptors of a client in the ledger: its two datagram sockets are open, and of all others
at most the one in `tcp_socket` is. -/
structure Owns (l : Ledger) (c : UdtcpClient) : Prop where
  unmisused : l.misused = false
  known : ∀ fd, l.state fd ≠ .foreign → 0 ≤ fd
  opened : ∀ fd, l.state fd = .opened → fd = c.clientInfos.tcpSocket ∨
    fd = c.clientInfos.udpServerSocket ∨ fd = c.clientInfos.udpClientSocket
  udpServer : l.state c.clientInfos.udpServerSocket = .opened
  udpClient : l.state c.clientInfos.udpClientSocket = .opened
  distinct : c.clientInfos.udpServerSocket ≠ c.clientInfos.udpClientSocket
  apart : c.clientInfos.tcpSocket ≠ c.clientInfos.udpServerSocket ∧
    c.clientInfos.tcpSocket ≠ c.clientInfos.udpClientSocket

/-- A client between two calls: it polls its datagram socket, and a number that was a stream socket
once. -/
structure Holds (l : Ledger) (c : UdtcpClient) : Prop extends Owns l c where
  pollNfds : c.pollNfds = 2
  polledUdp : (c.pollFds 1).fd = c.clientInfos.udpServerSocket
  polledTcp : l.state (c.pollFds 0).fd ≠ .foreign ∧
    (c.pollFds 0).fd ≠ c.clientInfos.udpServerSocket ∧
    (c.pollFds 0).fd ≠ c.clientInfos.udpClientSocket

/-- The client's calls between creation and deletion do not look at anything else. -/
theorem Holds.congr {c : UdtcpClient} (h : Holds l c) (c' : UdtcpClient)
    (hinfos : c'.clientInfos = c.clientInfos)
    (hfds : ∀ i < 2, (c'.pollFds i).fd = (c.pollFds i).fd) (hn : c'.pollNfds = c.pollNfds) :
    Holds l c' := by
  refine ⟨⟨h.unmisused, h.known, ?_, ?_, ?_, ?_, ?_⟩, hn.trans h.pollNfds, ?_, ?_⟩
  · rw [hinfos]
    exact h.opened
  · rw [hinfos]
    exact h.udpServer
  · rw [hinfos]
    exact h.udpClient
  · rw [hinfos]
    exact h.distinct
  · rw [hinfos]
    exact h.apart
  · rw [hinfos, hfds 1 (by decide)]
    exact h.polledUdp
  · rw [hinfos, hfds 0 (by decide)]
    exact h.polledTcp

/-- A number that is no longer open and no datagram socket may be closed. -/
theorem Holds.release {c : UdtcpClient} (h : Holds l c)
    (hopen : l.state c.clientInfos.tcpSocket = .opened) :
    Holds { l with state := Function.update l.state c.clientInfos.tcpSocket .released } c := by
  have hstate (fd : Fd) (hfd : fd ≠ c.clientInfos.tcpSocket) :
      Function.update l.state c.clientInfos.tcpSocket .released fd = l.state fd :=
    Function.update_of_ne hfd _ _
  refine ⟨⟨h.unmisused, ?_, ?_, ?_, ?_, h.distinct, h.apart⟩, h.pollNfds, h.polledUdp, ?_,
    h.polledTcp.2⟩
  · intro fd hfd
    by_cases heq : fd = c.clientInfos.tcpSocket
    · subst heq
      exact h.known _ (by rw [hopen]; decide)
    · exact h.known fd (hstate fd heq ▸ hfd)
  · intro fd hfd
    by_cases heq : fd = c.clientInfos.tcpSocket
    · exact .inl heq
    · exact h.opened fd (hstate fd heq ▸ hfd)
  · exact (hstate _ h.apart.1.symm).trans h.udpServer
  · exact (hstate _ h.apart.2.symm).trans h.udpClient
  · by_cases heq : (c.pollFds 0).fd = c.clientInfos.tcpSocket
    · rw [heq]
      exact (Function.update_self ..).trans_ne nofun
    · exact (hstate _ heq).trans_ne h.polledTcp.1

/-- Forget the number of a stream socket that is not open. -/
theorem Holds.forget {c : UdtcpClient} (h : Holds l c)
    (hclosed : l.state c.clientInfos.tcpSocket ≠ .opened) : Holds l (c.setTcpSocket (-1)) := by
  have hnonneg {fd : Fd} (hfd : l.state fd = .opened) : (-1 : Fd) ≠ fd := by
    rintro rfl
    exact absurd (h.known (-1) (by rw [hfd]; decide)) (by decide)
  refine ⟨⟨h.unmisused, h.known, fun fd hfd ↦ .inr ?_, h.udpServer, h.udpClient, h.distinct,
    hnonneg h.udpServer, hnonneg h.udpClient⟩, h.pollNfds, h.polledUdp, h.polledTcp⟩
  refine (h.opened fd hfd).resolve_left ?_
  rintro rfl
  exact hclosed hfd

/-- A new stream socket takes the place of one that is not open. -/
theorem Holds.adopt {c : UdtcpClient} (h : Holds l c)
    (hclosed : l.state c.clientInfos.tcpSocket ≠ .opened) {fd : Fd} (hfd : 0 ≤ fd)
    (hnew : l.state fd ≠ .opened) :
    Holds { l with state := Function.update l.state fd .opened } (c.setTcpSocket fd) := by
  have hstate (f : Fd) (hf : f ≠ fd) : Function.update l.state fd .opened f = l.state f :=
    Function.update_of_ne hf _ _
  have hserver : fd ≠ c.clientInfos.udpServerSocket := by
    rintro rfl
    exact hnew h.udpServer
  have hclient : fd ≠ c.clientInfos.udpClientSocket := by
    rintro rfl
    exact hnew h.udpClient
  refine ⟨⟨h.unmisused, ?_, ?_, ?_, ?_, h.distinct, hserver, hclient⟩, h.pollNfds, h.polledUdp, ?_,
    h.polledTcp.2⟩
  · intro f hf
    by_cases heq : f = fd
    · exact heq ▸ hfd
    · exact h.known f (hstate f heq ▸ hf)
  · intro f hf
    by_cases heq : f = fd
    · exact .inl heq
    · refine .inr ((h.opened f (hstate f heq ▸ hf)).resolve_left ?_)
      rintro rfl
      exact hclosed (hstate _ heq ▸ hf)
  · exact (hstate _ hserver.symm).trans h.udpServer
  · exact (hstate _ hclient.symm).trans h.udpClient
  · by_cases heq : (c.pollFds 0).fd = fd
    · subst heq
      exact (Function.update_self ..).trans_ne nofun
    · exact (hstate _ heq).trans_ne h.polledTcp.1

/-! ### Connection attempts -/

/-- The client holds a stream socket that is open. -/
def HoldsOpen (l : Ledger) (c : UdtcpClient) : Prop :=
  Holds l c ∧ l.state c.clientInfos.tcpSocket = .opened

private theorem usesOnly_worksOn {fd : Fd} {c : SysCall} (hc : c.worksOn fd = true)
    (r : Except Errno c.Result) : UsesOnly fd ⟨.sys c, r⟩ := by
  intro use huse
  cases c
  case poll fds timeout =>
    cases huse
    refine ⟨_, rfl, List.forall_mem_map.mpr fun p hp ↦ ?_⟩
    simpa using List.all_eq_true.mp hc p hp
  case send f data =>
    cases huse
    exact ⟨_, rfl, List.forall_mem_singleton.mpr (by simpa [SysCall.worksOn] using hc)⟩
  case recv f target len =>
    cases huse
    exact ⟨_, rfl, List.forall_mem_singleton.mpr (by simpa [SysCall.worksOn] using hc)⟩
  case setsockopt => cases huse
  case bind => cases huse
  case connect => cases huse
  case getfl => cases huse
  case setfl => cases huse
  all_goals cases hc

private theorem usesOnly_call (fd : Fd) {c : Call} (hc : c.isSys = false) (r : c.Reply) :
    UsesOnly fd ⟨c, r⟩ := by
  intro use huse
  cases c
  case sys => cases hc
  all_goals cases huse

private theorem attemptRules_ledger (fd : Fd) : AttemptRules ledgerKernel fd fun t l ↦
    HoldsOpen l t.self ∧ t.self.clientInfos.tcpSocket = fd where
  tcpSocket _ _ hI := hI.2
  sys c hc t l r l' hI hstep := by
    obtain ⟨⟨hholds, hopen⟩, rfl⟩ := hI
    obtain rfl := (usesOnly_worksOn hc r).ledger_eq (by rw [hopen]; decide) hstep
    rw [Thread.note_self]
    exact ⟨⟨hholds, hopen⟩, rfl⟩
  call c hc t l r l' hI hstep := by
    obtain ⟨⟨hholds, hopen⟩, rfl⟩ := hI
    obtain rfl := (usesOnly_call t.self.clientInfos.tcpSocket hc r).ledger_eq
      (by rw [hopen]; decide) hstep
    exact ⟨⟨hholds, hopen⟩, rfl⟩
  errno _ _ _ hI := hI
  serverInfos t _ r hI :=
    ⟨⟨hI.1.1.congr { t.self with serverInfos := r } rfl (fun _ _ ↦ rfl) rfl, hI.1.2⟩, hI.2⟩

private theorem must_closeTcpSocket (h : HoldsOpen l t.self) :
    Must ledgerKernel Client.closeTcpSocket t l fun _ t' l' ↦ Holds l' t'.self := by
  unfold Client.closeTcpSocket
  refine must_self_bind (must_syscall_bind fun r l₁ hshut ↦ must_self_bind ?_)
  refine must_syscall_bind fun r' l₂ hclose ↦ must_pure ?_
  obtain rfl : l₁ = l := hshut.2.trans (Ledger.enter_used (by simp [h.2]))
  rw [Thread.note_self] at hclose
  rw [Thread.note_self, Thread.note_self, hclose.2, Ledger.enter_closed_opened h.2]
  exact h.1.release h.2

private theorem must_closeTcpSocket_none (h : Holds l t.self)
    (hfd : t.self.clientInfos.tcpSocket = -1) :
    Must ledgerKernel Client.closeTcpSocket t l fun _ t' l' ↦ Holds l' t'.self := by
  have hforeign : l.state (-1) = .foreign := by
    by_contra hstate
    exact absurd (h.known (-1) hstate) (by decide)
  unfold Client.closeTcpSocket
  refine must_self_bind (must_syscall_bind fun r l₁ hshut ↦ must_self_bind ?_)
  refine must_syscall_bind fun r' l₂ hclose ↦ must_pure ?_
  rw [hfd] at hshut
  obtain rfl : l₁ = l := hshut.2.trans (Ledger.enter_used (by simp [hforeign]))
  rw [Thread.note_self, hfd] at hclose
  rw [Thread.note_self, Thread.note_self, hclose.2, Ledger.enter_closed_foreign hforeign]
  exact h

/-- A connection attempt of a client whose stream socket is not open. -/
theorem must_udtcpConnectClient_ledger {hostname : List UInt8} {tcpPort : UInt16} {timeout : Int}
    (h : Holds l t.self) (hclosed : l.state t.self.clientInfos.tcpSocket ≠ .opened) :
    Must ledgerKernel (udtcpConnectClient hostname tcpPort timeout) t l fun _ t' l' ↦
      Holds l' t'.self := by
  refine must_udtcpConnectClient_of attemptRules_ledger ?_ ?_ (fun _ _ _ hI ↦
    must_closeTcpSocket hI.1) (fun _ _ _ hJ ↦ hJ) fun _ _ _ hI ↦ hI.1.1
  · rintro fd l' ⟨hnew, rfl⟩
    exact ⟨⟨h.adopt hclosed fd.property hnew, Function.update_self ..⟩, rfl⟩
  · intro e l' hstep
    obtain rfl : l' = l := hstep
    exact must_closeTcpSocket_none (h.forget hclosed) rfl

/-! ### Passes and sends -/

/-- A client between its poll and its disconnection: the socket it polls is open, and the number it
receives from is not released. -/
def ListensOpen (l : Ledger) (c : UdtcpClient) : Prop :=
  HoldsOpen l c ∧ l.state c.serverInfos.tcpSocket ≠ .released

private theorem receiverCalls_usesOnly (fd : Fd) : ReceiverCalls (UsesOnly fd) fd := by
  refine {
    newBuffer := fun _ _ _ huse ↦ by cases huse
    freeBuffer := fun _ _ _ huse ↦ by cases huse
    peek := ?_
    take := ?_
    poll := ?_
    recvWord := ?_
    recvBuffer := ?_ }
  all_goals
    intros
    intro use huse
    cases huse
    exact ⟨_, rfl, List.forall_mem_singleton.mpr rfl⟩

private theorem maintains_receive {receive : ClientProc Int} (fd : UdtcpClient → Fd)
    (hfd : ∀ l c, ListensOpen l c → l.state (fd c) ≠ .released)
    (h : ∀ t tr n t', Exec receive t tr n t' → (∀ e ∈ tr, UsesOnly (fd t.self) e) ∧
      ∃ b, t'.self = { t.self with buffer := b }) :
    Maintains ledgerKernel (fun t l ↦ ListensOpen l t.self) receive := by
  intro t l hI tr n t' l' hexec ha
  obtain ⟨huses, b, hself⟩ := h t tr n t' hexec
  obtain rfl := ledger_eq_of_usesOnly huses (hfd l _ hI) ha
  rw [hself]
  exact ⟨⟨hI.1.1.congr _ rfl (fun _ _ ↦ rfl) rfl, hI.1.2⟩, hI.2⟩

private theorem maintains_receiveTcp :
    Maintains ledgerKernel (fun t l ↦ ListensOpen l t.self) Client.receiveTcp := by
  refine maintains_receive (·.serverInfos.tcpSocket) (fun _ _ hI ↦ hI.2) fun t tr n t' h ↦ ?_
  obtain ⟨u, hu, rfl⟩ := Client.exec_receiveTcp.mp h
  refine ⟨emits_receiveTcpWith (receiverCalls_usesOnly _) (fun f hf data v ↦ ?_) _ _ _ _ _
    hu, _, rfl⟩
  exact usesOnly_call _ rfl _

private theorem maintains_receiveUdp :
    Maintains ledgerKernel (fun t l ↦ ListensOpen l t.self) Client.receiveUdp := by
  refine maintains_receive (·.clientInfos.udpServerSocket)
    (fun l c hI ↦ by rw [hI.1.1.udpServer]; decide) fun t tr n t' h ↦ ?_
  obtain ⟨u, hu, rfl⟩ := Client.exec_receiveUdp.mp h
  refine ⟨emits_receiveUdpWith (receiverCalls_usesOnly _).toDatagramCalls
    (fun _ f hf data v ↦ ?_) _ _ _ _ _ hu, _, rfl⟩
  exact usesOnly_call _ rfl _

private theorem passRules_ledger : PassRules ledgerKernel fun t l ↦ ListensOpen l t.self where
  revents t l revents hI := by
    refine ⟨⟨hI.1.1.congr (t.self.setRevents revents) rfl (fun i hi ↦ ?_) rfl, hI.1.2⟩, hI.2⟩
    have hentry : (t.self.setRevents revents).pollFds i =
        { t.self.pollFds i with revents := revents i } :=
      if_pos (by rw [hI.1.1.pollNfds]; exact hi)
    rw [hentry]
  flag t l r l' hI hstep := by
    obtain rfl : l' = l := hstep
    exact hI
  receiveTcp := maintains_receiveTcp
  receiveUdp := maintains_receiveUdp

private theorem must_disconnect (h : HoldsOpen l t.self) :
    Must ledgerKernel Client.disconnect t l fun _ t' l' ↦ Holds l' t'.self := by
  unfold Client.disconnect
  refine must_self_bind (must_syscall_bind fun r l₁ hshut ↦ must_self_bind ?_)
  refine must_syscall_bind fun r' l₂ hclose ↦ must_update_bind (must_self_bind ?_)
  obtain rfl : l₁ = l := hshut.2.trans (Ledger.enter_used (by simp [h.2]))
  rw [Thread.note_self] at hclose
  obtain rfl := hclose.2.trans (Ledger.enter_closed_opened h.2)
  have hself : ((t.note r).note r').self = t.self := by rw [Thread.note_self, Thread.note_self]
  rw [← hself] at h ⊢
  have hholds := (h.1.release h.2).forget (by simp)
  refine must_ite (fun _ ↦ must_issue fun _ l₃ hstep ↦ ?_) fun _ ↦ must_pure hholds
  obtain rfl : l₃ = _ := hstep
  exact hholds

private theorem Holds.holdsOpen {c : UdtcpClient} (h : Holds l c)
    (hpolled : l.state (c.pollFds 0).fd ≠ .released) :
    HoldsOpen l c ∧ (c.pollFds 0).fd = c.clientInfos.tcpSocket := by
  obtain ⟨hknown, hserver, hclient⟩ := h.polledTcp
  have hopen : l.state (c.pollFds 0).fd = .opened := by
    cases hstate : l.state (c.pollFds 0).fd
    case opened => rfl
    case foreign => exact absurd hstate hknown
    case released => exact absurd hstate hpolled
  rcases h.opened _ hopen with heq | heq | heq
  · exact ⟨⟨h, heq ▸ hopen⟩, heq⟩
  · exact absurd heq hserver
  · exact absurd heq hclient

/-- A pass of a client that polls, and receives from, no released number. -/
theorem must_udtcpClientPoll_ledger {fuel : Nat} {timeout : Int} (h : Holds l t.self)
    (hpolled : l.state (t.self.pollFds 0).fd ≠ .released)
    (hrecord : l.state t.self.serverInfos.tcpSocket ≠ .released) :
    Must ledgerKernel (udtcpClientPoll fuel timeout) t l fun _ t' l' ↦ Holds l' t'.self := by
  refine must_udtcpClientPoll_of passRules_ledger (fun r l' hpoll ↦ ?_)
    (fun _ _ hI ↦ must_disconnect hI.1) fun _ _ hI ↦ hI.1.1
  have hfds : ∀ fd ∈ t.self.polled.map (·.fd), l.state fd ≠ .released := by
    rw [UdtcpClient.polled, h.pollNfds]
    refine List.forall_mem_cons.mpr ⟨hpolled, List.forall_mem_singleton.mpr ?_⟩
    change l.state (t.self.pollFds 1).fd ≠ .released
    rw [h.polledUdp, h.udpServer]
    decide
  obtain rfl : l' = l := hpoll.2.trans (Ledger.enter_used hfds)
  rw [Thread.note_self]
  exact ⟨(h.holdsOpen hpolled).1, hrecord⟩

/-- A message uses the descriptor it is sent on and no other. -/
theorem sendCalls_usesOnly (fd : Fd) : SendCalls (UsesOnly fd) fd where
  call _ r hc _ := usesOnly_call fd hc r
  newBuffer _ _ _ huse := by cases huse
  send _ _ _ huse := by
    cases huse
    exact ⟨_, rfl, List.forall_mem_singleton.mpr rfl⟩

/-! ### Deletion -/

section

variable {τ : Type} {u : Thread τ} {fd : Fd}

-- `fd` was closed, and nothing else changed.
private def Closes (l : Ledger) (fd : Fd) (l' : Ledger) : Prop :=
  l'.misused = l.misused ∧ (∀ f, l'.state f = .opened → l.state f = .opened ∧ f ≠ fd) ∧
    ∀ f, f ≠ fd → l'.state f = l.state f

private theorem closes_enter (hfd : l.state fd ≠ .released) :
    Closes l fd (l.enter (.closed fd)) := by
  obtain ⟨hmisused, hclosed, hsame⟩ := Ledger.enter_closed hfd
  refine ⟨hmisused, fun f hf ↦ ?_, hsame⟩
  have hne : f ≠ fd := by
    rintro rfl
    exact hclosed hf
  exact ⟨hsame f hne ▸ hf, hne⟩

private theorem must_closeIfOpen (hnone : l.state (-1) ≠ .opened) (hfd : l.state fd ≠ .released) :
    Must ledgerKernel (closeIfOpen fd) u l fun _ _ l' ↦ Closes l fd l' := by
  refine must_ite (fun _ ↦ must_syscall_bind fun r l₁ hclose ↦ must_pure ?_) fun h ↦ must_pure ?_
  · obtain rfl := hclose.2
    exact closes_enter hfd
  · obtain rfl : fd = -1 := not_not.mp h
    refine ⟨rfl, fun f hf ↦ ⟨hf, ?_⟩, fun _ _ ↦ rfl⟩
    rintro rfl
    exact hnone hf

private theorem must_shutdownIfOpen (hfd : l.state fd ≠ .released) :
    Must ledgerKernel (shutdownIfOpen fd) u l fun _ _ l' ↦ l' = l := by
  refine must_ite (fun _ ↦ must_syscall_bind fun r l₁ hshut ↦ must_pure ?_) fun _ ↦ must_pure rfl
  exact hshut.2.trans (Ledger.enter_used (by simpa using hfd))

/-- Sockets of a list, each open and standing there once, are closed in turn. -/
theorem must_closeAll {fds : List Fd} (hopen : ∀ fd ∈ fds, l.state fd = .opened)
    (hnodup : fds.Nodup) : Must ledgerKernel (closeAll fds) u l fun _ _ l' ↦
      l'.misused = l.misused ∧ ∀ f, l'.state f = .opened → l.state f = .opened ∧ f ∉ fds := by
  induction fds generalizing l u with
  | nil => exact must_pure ⟨rfl, fun f hf ↦ ⟨hf, nofun⟩⟩
  | cons fd fds ih =>
    obtain ⟨hfd, hfds⟩ := List.forall_mem_cons.mp hopen
    obtain ⟨hnot, hrest⟩ := List.nodup_cons.mp hnodup
    refine must_syscall_bind fun r l₁ hclose ↦ ?_
    obtain ⟨hmisused, hclosed, hsame⟩ : Closes l fd l₁ :=
      hclose.2 ▸ closes_enter (by rw [hfd]; decide)
    have hopen₁ : ∀ f ∈ fds, l₁.state f = .opened := fun f hf ↦
      (hsame f fun heq ↦ hnot (heq ▸ hf)).trans (hfds f hf)
    refine (ih hopen₁ hrest).mono fun _ _ l₂ ⟨hmisused₂, hstate₂⟩ ↦ ⟨hmisused₂.trans hmisused, ?_⟩
    intro f hf
    obtain ⟨hf₁, hnot₁⟩ := hstate₂ f hf
    obtain ⟨hf₀, hne⟩ := hclosed f hf₁
    exact ⟨hf₀, fun hmem ↦ (List.mem_cons.mp hmem).elim hne hnot₁⟩

end

/-- The deletion of a client whose `tcp_socket` is not a released number closes what is open. -/
theorem must_udtcpDeleteClient_ledger (h : Owns l t.self)
    (hfd : l.state t.self.clientInfos.tcpSocket ≠ .released) :
    Must ledgerKernel udtcpDeleteClient t l fun _ _ l' ↦ l'.Balanced := by
  have hnone : l.state (-1) ≠ .opened := fun hstate ↦
    absurd (h.known (-1) (by rw [hstate]; decide)) (by decide)
  unfold udtcpDeleteClient
  refine must_self_bind (must_bind ((must_shutdownIfOpen hfd).mono ?_))
  rintro _ t₁ _ rfl
  refine must_bind ((must_closeIfOpen hnone hfd).mono fun _ t₂ l₂ ⟨hmisused₂, hopen₂, hsame₂⟩ ↦ ?_)
  have hserver := (hsame₂ _ h.apart.1.symm).trans h.udpServer
  have hclient := (hsame₂ _ h.apart.2.symm).trans h.udpClient
  refine must_bind (Must.mono (must_closeIfOpen (fun hf ↦ hnone (hopen₂ _ hf).1)
    (by rw [hserver]; decide)) fun _ t₃ l₃ ⟨hmisused₃, hopen₃, hsame₃⟩ ↦ ?_)
  have hclient₃ := (hsame₃ _ h.distinct.symm).trans hclient
  refine must_bind (Must.mono (must_closeIfOpen (fun hf ↦ hnone (hopen₂ _ (hopen₃ _ hf).1).1)
    (by rw [hclient₃]; decide)) fun _ t₄ l₄ ⟨hmisused₄, hopen₄, _⟩ ↦ ?_)
  have hbalanced : l₄.Balanced := by
    refine ⟨fun f hf ↦ ?_, hmisused₄.trans (hmisused₃.trans (hmisused₂.trans h.unmisused))⟩
    obtain ⟨hf₃, hne₄⟩ := hopen₄ f hf
    obtain ⟨hf₂, hne₃⟩ := hopen₃ f hf₃
    obtain ⟨hf₁, hne₂⟩ := hopen₂ f hf₂
    rcases h.opened f hf₁ with heq | heq | heq
    · exact hne₂ heq
    · exact hne₃ heq
    · exact hne₄ heq
  have hunused (c : Call) (r : c.Reply) (hc : c.isSys = false) (_ : callbackOf c = none) :
      descriptorUseOf c r = none := by
    cases c
    case sys => cases hc
    all_goals rfl
  have hfree := Client.emits_freeParts
    (P := fun e ↦ descriptorUseOf e.call e.reply = none) hunused t.self
  refine must_ite (fun _ ↦ must_issue_bind fun _ l₅ hstep ↦ ?_) fun _ ↦ ?_
  · obtain rfl : l₅ = l₄ := hstep
    intro tr u t' l' hexec ha
    rw [ledger_eq_of_unused (hfree _ _ _ _ hexec) ha]
    exact hbalanced
  · intro tr u t' l' hexec ha
    rw [ledger_eq_of_unused (hfree _ _ _ _ hexec) ha]
    exact hbalanced

end

end Udtcp
