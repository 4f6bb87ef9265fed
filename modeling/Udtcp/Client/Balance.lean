import Udtcp.Client.Ledger
import Udtcp.Client.Life

/-!
# The balance of a client's descriptors

A failed creation, `create_client.c:82–230`, closes what it opened. A successful one leaves a client
that holds two datagram sockets, and from there on the ledger of its descriptors is balanced at its
deletion if each call finds the numbers it works on as it takes them to be.
-/

namespace Udtcp

open Interaction Routine

section

variable {l l' : Ledger} {t t' : Thread UdtcpClient} {tr : Trace posix}

/-! ### Creation -/

/-- The host a call found, if it found one. -/
def hostOf : (c : Call) → c.Reply → Option Hostent
  | .gethostbyname _, some host => some host
  | _, _ => none

/-- Every name found for a host is at most 272 bytes long, as `hostname` and `ip` are together. -/
def HostNameFits (tr : Trace posix) : Prop :=
  ∀ host ∈ tr.filterMap fun e ↦ hostOf e.call e.reply, host.name.length ≤ 272

-- What the end of a creation leaves: all closed if it failed, and a client that holds what it
-- should if it succeeded, unless the name found for its host is longer than `hostname` and `ip`.
private def Leaves (host : Hostent) (n : Int) (t : Thread UdtcpClient) (l : Ledger) : Prop :=
  (n ≠ 0 → l.Balanced) ∧ (n = 0 → host.name.length ≤ 272 → Holds l t.self)

-- A client under creation whose three sockets are open.
private def OwnsOpen (l : Ledger) (c : UdtcpClient) : Prop :=
  Owns l c ∧ l.state c.clientInfos.tcpSocket = .opened

private theorem OwnsOpen.congr {c : UdtcpClient} (h : OwnsOpen l c) (c' : UdtcpClient)
    (htcp : c'.clientInfos.tcpSocket = c.clientInfos.tcpSocket)
    (hserver : c'.clientInfos.udpServerSocket = c.clientInfos.udpServerSocket)
    (hclient : c'.clientInfos.udpClientSocket = c.clientInfos.udpClientSocket) : OwnsOpen l c' := by
  refine ⟨⟨h.1.unmisused, h.1.known, ?_, ?_, ?_, ?_, ?_⟩, ?_⟩
  · rw [htcp, hserver, hclient]
    exact h.1.opened
  · rw [hserver]
    exact h.1.udpServer
  · rw [hclient]
    exact h.1.udpClient
  · rw [hserver, hclient]
    exact h.1.distinct
  · rw [htcp, hserver, hclient]
    exact h.1.apart
  · rw [htcp]
    exact h.2

private theorem must_abandon {host : Hostent} (h : OwnsOpen l t.self) :
    Must ledgerKernel Client.abandon t l (Leaves host) :=
  must_bind ((must_udtcpDeleteClient_ledger h.1 (by rw [h.2]; decide)).mono fun _ _ _ hl ↦
    must_pure ⟨fun _ ↦ hl, fun hn ↦ by cases hn⟩)

private theorem sameLink_hostText {host : Hostent} {u u' : Thread UdtcpInfos} {v : Unit}
    (h : Exec (do
      copyText UdtcpInfos.hostnameOffset host.name
      copyText UdtcpInfos.ipOffset (inetNtoa (← self).tcpAddr.sAddr)) u tr v u') :
    tr = [] ∧ (host.name.length ≤ 272 → u.self.SameLink u'.self) := by
  obtain ⟨tr₁, _, u₁, tr₂, rfl, hname, hrest⟩ := exec_bind.mp h
  obtain ⟨rfl, rfl⟩ := exec_copyText hname
  rw [exec_self_bind] at hrest
  obtain ⟨rfl, rfl⟩ := exec_copyText hrest
  refine ⟨rfl, fun hlen ↦ ?_⟩
  have hname : u.self.SameLink (u.self.patch UdtcpInfos.hostnameOffset host.name) :=
    UdtcpInfos.sameLink_patch _ (by decide) (by rw [UdtcpInfos.hostnameOffset]; omega)
  have hip := length_inetNtoa (u.self.patch UdtcpInfos.hostnameOffset host.name).tcpAddr.sAddr
  exact hname.trans (UdtcpInfos.sameLink_patch _ (by decide)
    (Nat.le_trans (Nat.add_le_add_left hip _) (by decide)))

private theorem must_finishClient {host : Hostent} (h : OwnsOpen l t.self) :
    Must ledgerKernel (Client.finishClient host) t l (Leaves host) := by
  unfold Client.finishClient
  refine must_update_bind (must_update_bind (must_bind (must_onPart ?_)))
  intro tr _ u l₁ htext ha
  obtain ⟨rfl, hlink⟩ := sameLink_hostText htext
  obtain rfl : l₁ = l := ha
  refine must_update_bind (must_self_bind (must_syscall_bind fun r l₂ hclose ↦ must_pure ?_))
  refine ⟨fun hn ↦ (hn rfl).elim, fun _ hlen ↦ ?_⟩
  have hsame := hlink hlen
  rw [Thread.note_self]
  obtain ⟨howns, hopen⟩ := h.congr { t.self with clientInfos := u.self } hsame.tcpSocket
    hsame.udpServerSocket hsame.udpClientSocket
  obtain rfl := hclose.2.trans (Ledger.enter_closed_opened hopen)
  refine Holds.release ⟨⟨howns.unmisused, howns.known, howns.opened, howns.udpServer,
    howns.udpClient, howns.distinct, howns.apart⟩, rfl, hsame.udpServerSocket.symm, ?_⟩ hopen
  have hforeign : l₁.state t.self.clientInfos.tcpSocket ≠ .foreign := by
    rw [h.2]
    decide
  refine ⟨hforeign, ?_, ?_⟩
  · exact fun heq ↦ h.1.apart.1 (heq.trans hsame.udpServerSocket)
  · exact fun heq ↦ h.1.apart.2 (heq.trans hsame.udpClientSocket)

private theorem maintains_unused {c : SysCall} (hc : ∀ r, descriptorUseOf (.sys c) r = none) :
    Maintains ledgerKernel (fun t l ↦ OwnsOpen l t.self) (syscall c) :=
  maintains_syscall fun t l r l' hI hstep ↦ by
    rw [ledgerKernel, hc] at hstep
    obtain rfl : l' = l := hstep
    rw [Thread.note_self]
    exact hI

private theorem maintains_addOption_ledger (fd : Fd) (option : Nat) :
    Maintains ledgerKernel (fun t l ↦ OwnsOpen l t.self) (udtcpSocketAddOption fd option) := by
  refine (maintains_unused fun _ ↦ rfl).bind fun r ↦ ?_
  cases r with
  | error e => exact maintains_pure _
  | ok flags =>
    refine (maintains_unused fun _ ↦ rfl).bind fun r ↦ ?_
    cases r <;> exact maintains_pure _

private theorem maintains_setOptions (option : SocketOption) (fds : List Fd) :
    Maintains ledgerKernel (fun t l ↦ OwnsOpen l t.self) (setOptions option fds) := by
  induction fds with
  | nil => exact maintains_pure _
  | cons fd fds ih =>
    refine (maintains_unused fun _ ↦ rfl).bind fun r ↦ ?_
    cases r with
    | error e => exact maintains_pure _
    | ok u => exact ih

private theorem maintains_bindSocket_ledger (fd : Fd) (addr : SockaddrIn) :
    Maintains ledgerKernel (fun t l ↦ OwnsOpen l t.self) (bindSocket fd addr) := by
  refine (maintains_unused fun _ ↦ rfl).bind fun r ↦ ?_
  cases r with
  | error e => exact maintains_pure _
  | ok u =>
    refine (maintains_unused fun _ ↦ rfl).bind fun r ↦ ?_
    cases r <;> exact maintains_pure _

private theorem must_unblockSockets {host : Hostent} (h : OwnsOpen l t.self) :
    Must ledgerKernel (Client.unblockSockets host) t l (Leaves host) := by
  unfold Client.unblockSockets
  refine must_update_bind (must_self_bind (must_bind ?_))
  refine Must.mono (maintains_addOption_ledger _ _ _ _ (h.congr _ ?_ ?_ ?_)) fun _ t₁ l₁ h₁ ↦ ?_
  iterate 3 rfl
  refine must_ite (fun _ ↦ must_abandon h₁) fun _ ↦ must_self_bind (must_bind ?_)
  refine (maintains_addOption_ledger _ _ _ _ h₁).mono fun _ t₂ l₂ h₂ ↦ ?_
  exact must_ite (fun _ ↦ must_abandon h₂) fun _ ↦ must_finishClient h₂

private theorem must_bindOrAbandon {host : Hostent} {fd : Fd} {addr : SockaddrIn}
    {k : SockaddrIn → ClientProc Int} (h : OwnsOpen l t.self)
    (hk : ∀ name t' l', OwnsOpen l' t'.self → Must ledgerKernel (k name) t' l' (Leaves host)) :
    Must ledgerKernel (bindSocket fd addr >>= fun o ↦ match o with
      | none => Client.abandon
      | some name => k name) t l (Leaves host) := by
  refine must_bind ((maintains_bindSocket_ledger fd addr _ _ h).mono fun o t₁ l₁ h₁ ↦ ?_)
  cases o with
  | none => exact must_abandon h₁
  | some name => exact hk name t₁ l₁ h₁

private theorem must_bindSockets {host : Hostent} {p q r : UInt16} (h : OwnsOpen l t.self) :
    Must ledgerKernel (Client.bindSockets host p q r) t l (Leaves host) := by
  unfold Client.bindSockets
  refine must_update_bind (must_self_bind (must_self_bind (must_bindOrAbandon
    (h.congr _ rfl rfl rfl) fun _ t₁ l₁ h₁ ↦ ?_)))
  refine must_update_bind (must_self_bind (must_self_bind (must_bindOrAbandon
    (h₁.congr _ rfl rfl rfl) fun _ t₂ l₂ h₂ ↦ ?_)))
  refine must_update_bind (must_self_bind (must_self_bind (must_bindOrAbandon
    (h₂.congr _ rfl rfl rfl) fun _ t₃ l₃ h₃ ↦ ?_)))
  exact must_update_bind (must_unblockSockets (h₃.congr _ rfl rfl rfl))

private theorem must_setReuse {host : Hostent} {p q r : UInt16} (h : OwnsOpen l t.self) :
    Must ledgerKernel (Client.setReuse host p q r) t l (Leaves host) := by
  unfold Client.setReuse
  refine must_self_bind (must_bind ((maintains_setOptions _ _ _ _ h).mono fun _ t₁ l₁ h₁ ↦ ?_))
  refine must_ite (fun _ ↦ must_bind ?_) fun _ ↦ must_abandon h₁
  refine (maintains_setOptions _ _ _ _ h₁).mono fun _ t₂ l₂ h₂ ↦ ?_
  exact must_ite (fun _ ↦ must_bindSockets h₂) fun _ ↦ must_abandon h₂

-- Exactly the sockets of a list are open, each once.
private structure Opens (l : Ledger) (fds : List Fd) : Prop where
  unmisused : l.misused = false
  known : ∀ fd, l.state fd ≠ .foreign → 0 ≤ fd
  nodup : fds.Nodup
  opened_iff : ∀ fd, l.state fd = .opened ↔ fd ∈ fds

private theorem opens_empty : Opens .empty [] :=
  ⟨rfl, fun _ h ↦ (h rfl).elim, List.nodup_nil, fun _ ↦ by simp [Ledger.empty]⟩

private theorem Opens.append {fds : List Fd} (h : Opens l fds) {fd : Descriptor}
    (hnew : l.state fd.val ≠ .opened) :
    Opens (l.enter (.opened fd.val)) (fds ++ [fd.val]) := by
  have hnot : fd.val ∉ fds := fun hmem ↦ hnew ((h.opened_iff _).mpr hmem)
  have hstate (f : Fd) (hf : f ≠ fd.val) : (l.enter (.opened fd.val)).state f = l.state f :=
    Function.update_of_ne hf _ _
  refine ⟨h.unmisused, fun f hf ↦ ?_, ?_, fun f ↦ ?_⟩
  · by_cases heq : f = fd.val
    · exact heq ▸ fd.property
    · exact h.known f (hstate f heq ▸ hf)
  · exact List.nodup_append.mpr ⟨h.nodup, List.pairwise_singleton _ _, fun a ha b hb heq ↦
      hnot (List.mem_singleton.mp hb ▸ heq ▸ ha)⟩
  · rw [List.mem_append, List.mem_singleton]
    by_cases heq : f = fd.val
    · rw [heq]
      exact iff_of_true (Function.update_self ..) (.inr rfl)
    · rw [hstate f heq, h.opened_iff]
      exact (or_iff_left heq).symm

private theorem Opens.ownsOpen {c : UdtcpClient} (h : Opens l [c.clientInfos.tcpSocket,
    c.clientInfos.udpServerSocket, c.clientInfos.udpClientSocket]) : OwnsOpen l c := by
  have hnodup := h.nodup
  simp only [List.nodup_cons, List.mem_cons, List.not_mem_nil, or_false, not_or] at hnodup
  refine ⟨⟨h.unmisused, h.known, fun fd hfd ↦ ?_, ?_, ?_, hnodup.2.1, hnodup.1⟩, ?_⟩
  · simpa using (h.opened_iff fd).mp hfd
  · exact (h.opened_iff _).mpr (by simp)
  · exact (h.opened_iff _).mpr (by simp)
  · exact (h.opened_iff _).mpr (by simp)

private theorem must_releaseClient {host : Hostent} {fds : List Fd} (h : Opens l fds) :
    Must ledgerKernel (Client.releaseClient fds) t l (Leaves host) := by
  refine must_self_bind (must_request_bind fun _ l₁ hstep ↦ must_bind ?_)
  obtain rfl : l₁ = l := hstep
  refine (must_closeAll (fun fd hfd ↦ (h.opened_iff fd).mpr hfd) h.nodup).mono ?_
  intro _ t₂ l₂ ⟨hmisused, hopen⟩
  refine must_issue_bind fun _ l₃ hstep ↦ must_pure
    ⟨fun _ ↦ ⟨fun fd hfd ↦ ?_, ?_⟩, fun hn ↦ by cases hn⟩
  · obtain rfl : l₃ = l₂ := hstep
    obtain ⟨hfd₁, hnot⟩ := hopen fd hfd
    exact hnot ((h.opened_iff fd).mp hfd₁)
  · obtain rfl : l₃ = l₂ := hstep
    exact hmisused.trans h.unmisused

private theorem must_openSockets {host : Hostent} {p q r : UInt16} (h : Opens l []) :
    Must ledgerKernel (Client.openSockets host p q r) t l (Leaves host) := by
  unfold Client.openSockets
  refine must_syscall_bind fun tcp l₁ htcp ↦ ?_
  cases tcp with
  | error e =>
    obtain rfl : l₁ = l := htcp
    exact must_releaseClient h
  | ok tcp =>
    obtain ⟨hnew, rfl⟩ := htcp
    have h₁ := h.append hnew
    refine must_update_bind (must_syscall_bind fun udpServer l₂ hserver ↦ ?_)
    cases udpServer with
    | error e =>
      obtain rfl : l₂ = _ := hserver
      exact must_releaseClient h₁
    | ok udpServer =>
      obtain ⟨hnew, rfl⟩ := hserver
      have h₂ := h₁.append hnew
      refine must_update_bind (must_syscall_bind fun udpClient l₃ hclient ↦ ?_)
      cases udpClient with
      | error e =>
        obtain rfl : l₃ = _ := hclient
        exact must_releaseClient h₂
      | ok udpClient =>
        obtain ⟨hnew, rfl⟩ := hclient
        have h₃ := h₂.append hnew
        exact must_update_bind (must_setReuse (Opens.ownsOpen h₃))

private theorem ledger_udtcpCreateClient {hostname : List UInt8} {p q r : UInt16} {n : Int}
    (h : Exec (udtcpCreateClient hostname p q r) t tr n t')
    (ha : ledgerKernel.Accepts .empty tr l) :
    (n ≠ 0 → l.Balanced) ∧ (n = 0 → HostNameFits tr → Holds l t'.self) := by
  obtain ⟨host, rest, rfl, hrest⟩ := exec_request_bind.mp h
  obtain ⟨l₁, hstep, ha⟩ := ha
  obtain rfl : l₁ = .empty := hstep
  have hempty : Ledger.empty.Balanced := ⟨fun _ ↦ nofun, rfl⟩
  cases host with
  | none =>
    have hret := exec_setErrno_bind.mp hrest
    obtain ⟨rfl, rfl, rfl⟩ := exec_pure.mp hret
    obtain rfl : l = .empty := ha
    exact ⟨fun _ ↦ hempty, fun hn ↦ by cases hn⟩
  | some host =>
    suffices hmust : Must ledgerKernel _ t .empty (Leaves host) by
      obtain ⟨hfail, hdone⟩ := hmust _ _ _ _ hrest ha
      exact ⟨hfail, fun hn hfits ↦ hdone hn (hfits host (List.mem_cons_self ..))⟩
    refine must_syscall_bind fun addr l₁ hstep ↦ ?_
    obtain rfl : l₁ = .empty := hstep
    cases addr with
    | error e => exact must_pure ⟨fun _ ↦ hempty, fun hn ↦ by cases hn⟩
    | ok addr =>
      refine must_update_bind (must_self_bind (must_issue_bind fun _ l₂ hstep ↦ ?_))
      obtain rfl : l₂ = .empty := hstep
      refine must_request_bind fun ok l₃ hstep ↦ ?_
      obtain rfl : l₃ = .empty := hstep
      refine must_ite (fun _ ↦ must_openSockets opens_empty) fun _ ↦
        must_issue_bind fun _ l₄ hstep ↦ ?_
      obtain rfl : l₄ = .empty := hstep
      exact must_pure ⟨fun _ ↦ hempty, fun hn ↦ by cases hn⟩

/-! ### Lives -/

/-- The call finds the numbers it works on as it takes them to be: an attempt finds no open socket
in `tcp_socket`; a pass polls, and receives from, no released number; a send goes to none. -/
def ClientMove.Tidy (l : Ledger) (move : ClientMove) : Prop :=
  match move.call with
  | .connect .. => l.state move.before.clientInfos.tcpSocket ≠ .opened
  | .pass .. => l.state (move.before.pollFds 0).fd ≠ .released ∧
    l.state move.before.serverInfos.tcpSocket ≠ .released
  | .sendTcp .. => l.state move.before.serverInfos.tcpSocket ≠ .released

/-- Each call is tidy where it stands. -/
def TidyCalls : Ledger → List ClientMove → Prop
  | _, [] => True
  | l, move :: moves => move.Tidy l ∧ TidyCalls (l.follow move.trace) moves

private theorem tidyCalls_append {moves : List ClientMove} {move : ClientMove} :
    TidyCalls l (moves ++ [move]) ↔ TidyCalls l moves ∧ move.Tidy (l.follow (tracesOf moves)) := by
  induction moves generalizing l with
  | nil => exact and_comm
  | cons first moves ih =>
    rw [List.cons_append, TidyCalls, TidyCalls, ih, and_assoc]
    rw [show tracesOf (first :: moves) = first.trace ++ tracesOf moves from rfl,
      Ledger.follow_append]

private theorem ClientCall.Runs.holds {call : ClientCall} (h : call.Runs t tr t')
    (hl : Holds l t.self) (htidy : ClientMove.Tidy l ⟨call, t.errno, t.self, tr⟩)
    (ha : ledgerKernel.Accepts l tr l') : Holds l' t'.self := by
  cases call with
  | connect hostname tcpPort timeout =>
    obtain ⟨result, h⟩ := h
    exact must_udtcpConnectClient_ledger hl htidy _ _ _ _ h ha
  | pass fuel timeout =>
    obtain ⟨result, h⟩ := h
    exact must_udtcpClientPoll_ledger hl htidy.1 htidy.2 _ _ _ _ h ha
  | sendTcp data =>
    obtain ⟨n, h⟩ := h
    have huses := emits_udtcpSendTcp (sendCalls_usesOnly _) rfl data _ _ _ _ h
    obtain rfl := ledger_eq_of_usesOnly huses htidy ha
    have hself : t'.self = t.self :=
      Maintains.exec (I := fun u : Thread UdtcpClient ↦ u.self = t.self)
        (fun _ ↦ maintains_udtcpSendTcp (L := (· = t.self)) _ _) h rfl
    rw [hself]
    exact hl

private theorem ClientLife.holds {connect disconnect : Bool} {created : Trace posix}
    {moves : List ClientMove} (life : ClientLife connect disconnect created moves t)
    (ha : ledgerKernel.Accepts .empty (created ++ tracesOf moves) l) (hfits : HostNameFits created)
    (htidy : TidyCalls (Ledger.empty.follow created) moves) : Holds l t.self := by
  induction life generalizing l with
  | create tcp udp h =>
    rw [tracesOf, List.flatMap_nil, List.append_nil] at ha
    exact ((ledger_udtcpCreateClient h ha).2 rfl hfits).congr _ rfl (fun _ _ ↦ rfl) rfl
  | move life e call h ih =>
    rw [tracesOf_append, ← List.append_assoc, Kernel.accepts_append] at ha
    obtain ⟨l₁, ha₁, ha₂⟩ := ha
    obtain ⟨hbefore, hmove⟩ := tidyCalls_append.mp htidy
    rw [tracesOf_singleton] at ha₂
    rw [← Ledger.follow_append, ← (accepts_ledgerKernel.mp ha₁).2] at hmove
    exact h.holds (ih ha₁ hbefore) hmove ha₂

end

/-- **Client descriptors.** A failed creation closes what it opened. From a creation that succeeds,
with a name for the host that fits, over tidy calls, to a deletion that finds no released number in
`tcp_socket`, every descriptor is closed once, and none is used after that. -/
theorem client_descriptors_balanced {connect disconnect : Bool} {created : Trace posix} :
    (∀ {hostname : List UInt8} {tcpPort udpServerPort udpClientPort : UInt16}
      {t t' : Thread UdtcpClient} {n : Int} {l : Ledger},
      Exec (udtcpCreateClient hostname tcpPort udpServerPort udpClientPort) t created n t' →
      n ≠ 0 → ledgerKernel.Accepts .empty created l → l.Balanced) ∧
    (∀ {moves : List ClientMove} {t t' : Thread UdtcpClient} {trd : Trace posix} {e : Errno}
      {u : Unit} {l : Ledger},
      ClientLife connect disconnect created moves t → Exec udtcpDeleteClient ⟨e, t.self⟩ trd u t' →
      ledgerKernel.Accepts .empty (created ++ tracesOf moves ++ trd) l → HostNameFits created →
      TidyCalls (Ledger.empty.follow created) moves →
      (Ledger.empty.follow (created ++ tracesOf moves)).state t.self.clientInfos.tcpSocket ≠
        .released → l.Balanced) := by
  constructor
  · intro hostname tcpPort udpServerPort udpClientPort t t' n l h hn ha
    exact (ledger_udtcpCreateClient h ha).1 hn
  · intro moves t t' trd e u l life hdelete ha hfits htidy hend
    obtain ⟨l₁, ha₁, ha₂⟩ := ledgerKernel.accepts_append.mp ha
    rw [← (accepts_ledgerKernel.mp ha₁).2] at hend
    exact must_udtcpDeleteClient_ledger (t := ⟨e, t.self⟩) (life.holds ha₁ hfits htidy).toOwns hend
      _ _ _ _ hdelete ha₂

-- No descriptor is handed out.
private def Unopened (e : Event posix) : Prop :=
  ∀ fd, descriptorUseOf e.call e.reply ≠ some (.opened fd)

private theorem unopened_delete : Emits Unopened udtcpDeleteClient := by
  have hshut (fd : Fd) : Emits Unopened (shutdownIfOpen fd : ClientProc Unit) :=
    .ite ((emits_syscall fun _ _ h ↦ by cases h).bind fun _ ↦ emits_pure _) (emits_pure _)
  have hclose (fd : Fd) : Emits Unopened (closeIfOpen fd : ClientProc Unit) :=
    .ite ((emits_syscall fun _ _ h ↦ by cases h).bind fun _ ↦ emits_pure _) (emits_pure _)
  have hcall (c : Call) (r : c.Reply) (hc : c.isSys = false) (_ : callbackOf c = none) :
      Unopened ⟨c, r⟩ := by
    intro fd huse
    cases c
    case sys => cases hc
    all_goals cases huse
  refine emits_self.bind fun c ↦ (hshut _).bind fun _ ↦ (hclose _).bind fun _ ↦
    (hclose _).bind fun _ ↦ (hclose _).bind fun _ ↦ ?_
  have hfree := Client.emits_freeParts hcall c
  exact .ite ((emits_issue fun _ _ h ↦ by cases h).bind fun _ ↦ hfree) hfree

private theorem grantsAll_delete {t t' : Thread UdtcpClient} {tr : Trace posix} {u : Unit}
    {l : Ledger} (h : Exec udtcpDeleteClient t tr u t') : l.GrantsAll (descriptorUses tr) := by
  refine Ledger.grantsAll_of_unopened fun use huse fd heq ↦ ?_
  obtain ⟨e, he, hof⟩ := List.mem_filterMap.mp huse
  exact unopened_delete _ _ _ _ h e he fd (hof.trans (congrArg some heq))

/-- A client that connects once, with the number of its first stream socket. -/
theorem client_descriptors_balanced_once : ∃ (tr : Trace posix) (l : Ledger),
    ledgerKernel.Accepts .empty tr l ∧ l.Balanced := by
  obtain ⟨created, n, t, hcreate, rfl, hcreated, hsock⟩ := may_udtcpCreateClient
    ⟨.other 0, .zero 0⟩ ⟨3, by decide⟩ ⟨4, by decide⟩ ⟨5, by decide⟩
  have hlife : ClientLife false false created [] _ := .create false false hcreate
  obtain ⟨tr, result, t₁, hconnect, -, key, r, htr, hself⟩ := may_udtcpConnectClient
    ⟨t.errno, t.self.withCallbacks false false false false⟩ ⟨3, by decide⟩ 0 length_blankRecord
  have hlife₁ := hlife.move t.errno (.connect [] 0 0) ⟨result, hconnect⟩
  obtain ⟨trd, u, t₂, hdelete, -⟩ := may_udtcpDeleteClient t₁
  have huses : descriptorUses created = [.opened 3, .opened 4, .opened 5, .closed 3] := by
    rw [hcreated]
    rfl
  have huses₁ : descriptorUses tr = [.opened 3, .used [3], .used [3], .used [3]] := by
    rw [htr]
    rfl
  have hfits : HostNameFits created := by
    rw [hcreated]
    exact List.forall_mem_singleton.mpr (Nat.zero_le _)
  have hgrants : Ledger.empty.GrantsAll (descriptorUses (created ++ tr ++ trd)) := by
    rw [descriptorUses_append, descriptorUses_append, Ledger.grantsAll_append, huses, huses₁]
    exact ⟨by decide, grantsAll_delete hdelete⟩
  have haccepts := accepts_ledgerKernel.mpr ⟨hgrants, rfl⟩
  have hclosed : (Ledger.empty.follow created).state
      (t.self.withCallbacks false false false false).clientInfos.tcpSocket ≠ .opened := by
    rw [Ledger.follow, huses, UdtcpClient.withCallbacks, hsock]
    decide
  have hend : (Ledger.empty.follow (created ++ tr)).state t₁.self.clientInfos.tcpSocket ≠
      .released := by
    have hsock₁ : t₁.self.clientInfos.tcpSocket = 3 := by
      rw [hself]
      rfl
    rw [Ledger.follow, descriptorUses_append, huses, huses₁, hsock₁]
    decide
  have hmoves (c : UdtcpClient) : tracesOf ([] ++ [⟨.connect [] 0 0, t.errno, c, tr⟩]) = tr :=
    tracesOf_singleton _
  rw [← hmoves] at haccepts hend
  exact ⟨_, _, haccepts, client_descriptors_balanced.2 hlife₁ hdelete haccepts hfits
    ⟨hclosed, trivial⟩ hend⟩

/-- A client that is deleted without a connection attempt closes its stream socket twice. -/
theorem client_descriptors_closed_twice : ∃ (created trd : Trace posix) (t t' : Thread UdtcpClient)
    (l : Ledger), ClientLife false false created [] t ∧ Exec udtcpDeleteClient t trd () t' ∧
      ledgerKernel.Accepts .empty (created ++ trd) l ∧ l.misused = true := by
  obtain ⟨created, n, t, hcreate, rfl, hcreated, hsock⟩ := may_udtcpCreateClient
    ⟨.other 0, .zero 0⟩ ⟨3, by decide⟩ ⟨4, by decide⟩ ⟨5, by decide⟩
  have hlife : ClientLife false false created [] _ := .create false false hcreate
  obtain ⟨trd, u, t₁, hdelete, -⟩ := may_udtcpDeleteClient
    ⟨t.errno, t.self.withCallbacks false false false false⟩
  have huses : descriptorUses created = [.opened 3, .opened 4, .opened 5, .closed 3] := by
    rw [hcreated]
    rfl
  have hgrants : Ledger.empty.GrantsAll (descriptorUses (created ++ trd)) := by
    rw [descriptorUses_append, Ledger.grantsAll_append, huses]
    exact ⟨by decide, grantsAll_delete hdelete⟩
  refine ⟨created, trd, _, t₁, _, hlife, hdelete, accepts_ledgerKernel.mpr ⟨hgrants, rfl⟩, ?_⟩
  obtain ⟨tr₁, _, t₂, tr₂, rfl, hshut, -⟩ := exec_bind.mp (exec_self_bind.mp hdelete)
  rw [shutdownIfOpen, exec_ite, if_pos (by rw [UdtcpClient.withCallbacks, hsock]; decide)] at hshut
  obtain ⟨r, rest, rfl, -⟩ := exec_syscall_bind.mp hshut
  rw [Ledger.follow_append, List.cons_append, ← List.singleton_append, Ledger.follow_append]
  refine Ledger.misused_follow ?_ _
  have hused : descriptorUses [⟨.sys (.shutdown t.self.clientInfos.tcpSocket), r⟩] =
      [.used [3]] := by
    rw [hsock]
    rfl
  rw [Ledger.follow, Ledger.follow, huses]
  exact (congrArg (fun uses ↦ (List.foldl Ledger.enter _ uses).misused) hused).trans (by decide)

end Udtcp
