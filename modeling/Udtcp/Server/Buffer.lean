import Udtcp.Receive.Capacity
import Udtcp.Server.Created
import Udtcp.Server.Serving

/-!
# The receive buffer of a server

What `udtcp_create_server` and the passes of `udtcp_server_poll` do with `buffer_data` and
`buffer_size`: only receptions touch them.
-/

namespace Udtcp

open Interaction Routine

section

variable {m : Nat} {ker : Kernel posix Unit} {P : UdtcpServer m → Prop}

private theorem keeps_syscall (c : SysCall) :
    Maintains ker (fun t _ ↦ P t.self) (syscall c : ServerProc m _) :=
  maintains_syscall fun t _ r _ hP _ ↦ (t.note_self r).symm ▸ hP

private theorem keeps_request (c : Call) :
    Maintains ker (fun t _ ↦ P t.self) (request c : ServerProc m _) :=
  maintains_perform fun _ _ _ _ hP _ ↦ hP

private theorem keeps_issue (c : Call) :
    Maintains ker (fun t _ ↦ P t.self) (issue c : ServerProc m Unit) :=
  maintains_issue fun _ _ _ _ hP _ ↦ hP

/-- Taking a client in keeps what depends on the receive buffer and its callback alone. -/
theorem keeps_acceptClient (hP : ∀ s s' : UdtcpServer m, s'.buffer = s.buffer →
    s'.receiveTcpCallback = s.receiveTcpCallback → P s → P s') :
    Maintains ker (fun t _ ↦ P t.self) (acceptClient : ServerProc m Int) := by
  have hinfos (slot : Nat) (f : UdtcpInfos → UdtcpInfos) :
      Maintains ker (fun t _ ↦ P t.self) (update (·.modifyInfos slot f)) :=
    maintains_update fun t _ hPt ↦ hP t.self _ rfl rfl hPt
  have hclose (fd : Fd) : Maintains ker (fun t _ ↦ P t.self) (do
      let _ ← syscall (.close fd)
      return (-1 : Int)) := (keeps_syscall _).bind fun _ ↦ maintains_pure _
  have hwrite (slot : Nat) (bs : List UInt8) :
      Maintains ker (fun t _ ↦ P t.self) (writeRecord slot bs) := by
    unfold writeRecord
    refine (hinfos slot _).bind fun _ ↦ ?_
    cases bs[UdtcpInfos.sizeof]? with
    | none => exact maintains_pure _
    | some b =>
      refine .ite (hinfos (slot + 1) _) (maintains_self.bind fun s ↦ ?_)
      exact (maintains_perform fun _ _ _ _ hPt _ ↦ hPt).bind fun value ↦
        maintains_issue fun _ _ _ _ hPt _ ↦ hPt
  have hinit (slot : Nat) : Maintains ker (fun t _ ↦ P t.self) (initializeConnection slot) := by
    unfold initializeConnection
    refine maintains_self.bind fun s ↦ (keeps_syscall _).bind fun sent ↦ .ite (maintains_pure _) ?_
    refine Maintains.bind ((keeps_syscall _).bind fun _ ↦ maintains_pure _) fun ready ↦
      .ite (maintains_pure _) (maintains_self.bind fun s ↦ (keeps_syscall _).bind fun got ↦ ?_)
    cases got with
    | error e => exact maintains_pure _
    | ok bs =>
      refine (hwrite slot bs.val).bind fun _ ↦ .ite (maintains_pure _)
        (maintains_self.bind fun s ↦ ?_)
      exact (hinfos slot _).bind fun _ ↦ maintains_pure _
  have hregister (slot : Nat) : Maintains ker (fun t _ ↦ P t.self) (registerClient slot) := by
    intro t _ hPt tr u t' _ hrun _
    obtain ⟨key, name, rest, r, -, hself, -⟩ := exec_registerClient hrun
    exact hP t.self t'.self (by rw [hself]; rfl) (by rw [hself]; rfl) hPt
  have hoption (fd : Fd) (option : Nat) :
      Maintains ker (fun t _ ↦ P t.self) (udtcpSocketAddOption fd option : ServerProc m Int) := by
    intro t _ hPt tr n t' _ hrun _
    change P t'.self
    rw [(exec_udtcpSocketAddOption hrun).1]
    exact hPt
  unfold acceptClient
  refine maintains_self.bind fun s ↦ .ite ?_ ((keeps_syscall _).bind fun r ↦ ?_)
  · unfold refuseClient
    refine maintains_self.bind fun s ↦ (keeps_syscall _).bind fun r ↦ ?_
    cases r with
    | error e => exact maintains_pure _
    | ok a => exact (keeps_syscall _).bind fun _ ↦ hclose _
  · cases r with
    | error e => exact (hinfos s.pollNfds _).bind fun _ ↦ maintains_pure _
    | ok a =>
      refine (hinfos s.pollNfds _).bind fun _ ↦ ?_
      unfold admitClient
      refine maintains_self.bind fun s' ↦ (hoption _ _).bind fun o ↦ .ite ?_ ?_
      · exact maintains_self.bind fun s' ↦ hclose _
      · refine (hinit _).bind fun o ↦ .ite ?_ ((hregister _).bind fun _ ↦ maintains_pure _)
        exact maintains_self.bind fun s' ↦ hclose _

/-- Compaction keeps the buffer and the callbacks. -/
theorem compact_keeps (s : UdtcpServer m) : s.compact.buffer = s.buffer ∧
    s.compact.receiveTcpCallback = s.receiveTcpCallback := by
  have hremove (s : UdtcpServer m) (i : Nat) : (s.removeSlot i).buffer = s.buffer ∧
      (s.removeSlot i).receiveTcpCallback = s.receiveTcpCallback := by
    unfold UdtcpServer.removeSlot
    split <;> exact ⟨rfl, rfl⟩
  exact ⟨UdtcpServer.compact_congr (·.buffer) (fun s i ↦ (hremove s i).1) s,
    UdtcpServer.compact_congr (·.receiveTcpCallback) (fun s i ↦ (hremove s i).2) s⟩

/-- Compaction leaves the callback for datagrams alone. -/
theorem compact_receiveUdpCallback (s : UdtcpServer m) :
    s.compact.receiveUdpCallback = s.receiveUdpCallback := by
  refine UdtcpServer.compact_congr (·.receiveUdpCallback) (fun s i ↦ ?_) s
  unfold UdtcpServer.removeSlot
  split <;> rfl

/-! ### Creation -/

private theorem keeps_closeIfOpen (fd : Fd) :
    Maintains ker (fun t _ ↦ P t.self) (closeIfOpen fd : ServerProc m Unit) :=
  .ite ((keeps_syscall _).bind fun _ ↦ maintains_pure _) (maintains_pure _)

private theorem keeps_closeAll (fds : List Fd) :
    Maintains ker (fun t _ ↦ P t.self) (closeAll fds : ServerProc m Unit) := by
  induction fds with
  | nil => exact maintains_pure _
  | cons fd fds ih => exact (keeps_syscall _).bind fun _ ↦ ih

private theorem keeps_freeBlock (b : Option Block) :
    Maintains ker (fun t _ ↦ P t.self) (freeBlock b : ServerProc m Unit) := by
  cases b with
  | none => exact maintains_pure _
  | some b => exact keeps_issue _

private theorem keeps_bindSocket (fd : Fd) (addr : SockaddrIn) :
    Maintains ker (fun t _ ↦ P t.self) (bindSocket fd addr : ServerProc m _) := by
  refine (keeps_syscall _).bind fun r ↦ ?_
  cases r with
  | error e => exact maintains_pure _
  | ok u =>
    refine (keeps_syscall _).bind fun r ↦ ?_
    cases r <;> exact maintains_pure _

private theorem keeps_addOption (fd : Fd) (option : Nat) :
    Maintains ker (fun t _ ↦ P t.self) (udtcpSocketAddOption fd option : ServerProc m Int) := by
  refine (keeps_syscall _).bind fun r ↦ ?_
  cases r with
  | error e => exact maintains_pure _
  | ok flags =>
    refine (keeps_syscall _).bind fun r ↦ ?_
    cases r <;> exact maintains_pure _

namespace Server

private theorem keeps_releaseSends (s : UdtcpServer m) (is : List Nat) :
    Maintains ker (fun t _ ↦ P t.self) (releaseSends s is) := by
  induction is with
  | nil => exact maintains_pure _
  | cons i is ih =>
    refine (keeps_request _).bind fun send ↦ .ite ?_ ((keeps_issue _).bind fun _ ↦ ih)
    exact (keeps_freeBlock _).bind fun _ ↦ (keeps_issue _).bind fun _ ↦ ih

private theorem keeps_releaseClients (s : UdtcpServer m) (is : List Nat) :
    Maintains ker (fun t _ ↦ P t.self) (releaseClients s is) := by
  induction is with
  | nil => exact maintains_pure _
  | cons i is ih =>
    refine Maintains.bind (.ite ((keeps_syscall _).bind fun _ ↦ maintains_pure _)
      (maintains_pure _)) fun _ ↦ (keeps_closeIfOpen _).bind fun _ ↦ ?_
    exact .ite ((keeps_issue _).bind fun _ ↦ ih) ih

private theorem keeps_abandon :
    Maintains ker (fun t _ ↦ P t.self) (abandon : ServerProc m Int) := by
  refine Maintains.bind ?_ fun _ ↦ maintains_pure _
  refine maintains_self.bind fun s ↦ (keeps_closeIfOpen _).bind fun _ ↦
    (keeps_closeIfOpen _).bind fun _ ↦ (keeps_closeIfOpen _).bind fun _ ↦
    (keeps_releaseSends s _).bind fun _ ↦ (keeps_releaseClients s _).bind fun _ ↦ ?_
  exact .ite ((keeps_freeBlock _).bind fun _ ↦ keeps_issue _) (keeps_issue _)

private theorem keeps_destroyMutexes (s : UdtcpServer m) (is : List Nat) :
    Maintains ker (fun t _ ↦ P t.self) (destroyMutexes s is) := by
  induction is with
  | nil => exact maintains_pure _
  | cons i is ih => exact (keeps_issue _).bind fun _ ↦ ih

private theorem keeps_releaseServer (opened : List Fd) :
    Maintains ker (fun t _ ↦ P t.self) (releaseServer opened : ServerProc m Int) :=
  maintains_self.bind fun s ↦ (keeps_destroyMutexes s _).bind fun _ ↦
    (keeps_closeAll _).bind fun _ ↦ (keeps_issue _).bind fun _ ↦ maintains_pure _

private theorem keeps_clearSends (s : UdtcpServer m) (is : List Nat) :
    Maintains ker (fun t _ ↦ P t.self) (clearSends s is) := by
  induction is with
  | nil => exact maintains_pure _
  | cons i is ih => exact (keeps_issue _).bind fun _ ↦ ih

private theorem keeps_initMutexes (s : UdtcpServer m) (is : List Nat) :
    Maintains ker (fun t _ ↦ P t.self) (initMutexes s is) := by
  induction is with
  | nil => exact maintains_pure _
  | cons i is ih => exact (keeps_request _).bind fun on ↦ .ite ih (maintains_pure _)

section

variable (hP : ∀ s s' : UdtcpServer m, s'.buffer = s.buffer →
  s'.receiveTcpCallback = s.receiveTcpCallback → P s → P s')

include hP

private theorem keeps_modifyServerInfos (f : UdtcpInfos → UdtcpInfos) :
    Maintains ker (fun t _ ↦ P t.self) (update (·.modifyServerInfos f)) :=
  maintains_update fun t _ hPt ↦ hP t.self _ rfl rfl hPt

private theorem keeps_modifyPollFd (slot : Nat) (f : PollFd → PollFd) :
    Maintains ker (fun t _ ↦ P t.self) (update (·.modifyPollFd slot f)) :=
  maintains_update fun t _ hPt ↦ hP t.self _ rfl rfl hPt

private theorem keeps_pollNfds (n : Nat) :
    Maintains ker (fun t _ ↦ P t.self) (update fun s ↦ { s with pollNfds := n }) :=
  maintains_update fun t _ hPt ↦ hP t.self _ rfl rfl hPt

private theorem keeps_countId (n : UInt64) :
    Maintains ker (fun t _ ↦ P t.self) (update fun s ↦ { s with countId := n }) :=
  maintains_update fun t _ hPt ↦ hP t.self _ rfl rfl hPt

private theorem keeps_finishServer :
    Maintains ker (fun t _ ↦ P t.self) (finishServer : ServerProc m Int) := by
  refine (keeps_modifyServerInfos hP _).bind fun _ ↦ Maintains.bind ?_ fun _ ↦
    (keeps_countId hP _).bind fun _ ↦ maintains_pure _
  intro t _ hPt tr u t' _ hrun _
  obtain ⟨r, -, rfl⟩ := exec_onPart.mp hrun
  exact hP t.self _ rfl rfl hPt

private theorem keeps_listenServer :
    Maintains ker (fun t _ ↦ P t.self) (listenServer : ServerProc m Int) := by
  refine (keeps_modifyServerInfos hP _).bind fun _ ↦ maintains_self.bind fun s ↦
    (keeps_syscall _).bind fun r ↦ ?_
  cases r with
  | error e => exact keeps_abandon
  | ok u =>
    refine maintains_self.bind fun s ↦ (keeps_addOption _ _).bind fun o ↦ .ite keeps_abandon ?_
    refine maintains_self.bind fun s ↦ (keeps_addOption _ _).bind fun o ↦ .ite keeps_abandon ?_
    exact keeps_finishServer hP

private theorem keeps_bindSockets (host : Hostent) (p q r : UInt16) :
    Maintains ker (fun t _ ↦ P t.self) (bindSockets host p q r : ServerProc m Int) := by
  refine (keeps_modifyServerInfos hP _).bind fun _ ↦ maintains_self.bind fun s ↦
    maintains_self.bind fun s ↦ (keeps_bindSocket _ _).bind fun o ↦ ?_
  cases o with
  | none => exact keeps_abandon
  | some name =>
    refine (keeps_modifyServerInfos hP _).bind fun _ ↦ maintains_self.bind fun s ↦
      maintains_self.bind fun s ↦ (keeps_bindSocket _ _).bind fun o ↦ ?_
    cases o with
    | none => exact keeps_abandon
    | some name =>
      refine (keeps_modifyServerInfos hP _).bind fun _ ↦ maintains_self.bind fun s ↦
        maintains_self.bind fun s ↦ (keeps_bindSocket _ _).bind fun o ↦ ?_
      cases o with
      | none => exact keeps_abandon
      | some name =>
        exact (keeps_modifyServerInfos hP _).bind fun _ ↦ keeps_listenServer hP

private theorem keeps_openSockets (host : Hostent) (p q r : UInt16) :
    Maintains ker (fun t _ ↦ P t.self) (openSockets host p q r : ServerProc m Int) := by
  refine (keeps_syscall _).bind fun r ↦ ?_
  cases r with
  | error e => exact keeps_releaseServer _
  | ok tcp =>
    refine (keeps_modifyServerInfos hP _).bind fun _ ↦
      (keeps_modifyPollFd hP _ _).bind fun _ ↦
      (keeps_pollNfds hP _).bind fun _ ↦ (keeps_syscall _).bind fun r ↦ ?_
    cases r with
    | error e => exact keeps_releaseServer _
    | ok udp =>
      refine (keeps_modifyServerInfos hP _).bind fun _ ↦
        (keeps_modifyPollFd hP _ _).bind fun _ ↦
        (keeps_pollNfds hP _).bind fun _ ↦ (keeps_syscall _).bind fun r ↦ ?_
      cases r with
      | error e => exact keeps_releaseServer _
      | ok other =>
        exact (keeps_modifyServerInfos hP _).bind fun _ ↦ keeps_bindSockets hP _ _ _ _

end

end Server

/-- A server that was created has no receive buffer yet. -/
theorem buffer_udtcpCreateServer {hostname : List UInt8} {p q r : UInt16}
    {t t' : Thread (UdtcpServer m)} {tr : Trace posix}
    (h : Exec (udtcpCreateServer hostname p q r) t tr 0 t') : t'.self.buffer = .empty := by
  unfold udtcpCreateServer at h
  obtain ⟨host, rest, rfl, hhost⟩ := exec_request_bind.mp h
  cases host with
  | none =>
    have hret := exec_setErrno_bind.mp hhost
    cases (exec_pure.mp hret).2.1
  | some host =>
    obtain ⟨reply, rest, rfl, hnew⟩ := exec_syscall_bind.mp hhost
    cases reply with
    | error e => cases (exec_pure.mp hnew).2.1
    | ok addr =>
      have hzero := exec_self_bind.mp (exec_update_bind.mp hnew)
      refine Maintains.exec (I := fun u : Thread (UdtcpServer m) ↦ u.self.buffer = .empty)
        (fun ker ↦ ?_) hzero rfl
      have hkeep (s s' : UdtcpServer m) (hb : s'.buffer = s.buffer)
          (_ : s'.receiveTcpCallback = s.receiveTcpCallback) (hs : s.buffer = .empty) :
          s'.buffer = .empty := hb.trans hs
      let P : UdtcpServer m → Prop := fun s ↦ s.buffer = .empty
      refine (Server.keeps_clearSends (P := P) _ _).bind fun _ ↦
        (Server.keeps_initMutexes (P := P) _ _).bind fun o ↦ ?_
      cases o with
      | some i =>
        exact (Server.keeps_destroyMutexes (P := P) _ _).bind fun _ ↦
          (keeps_issue (P := P) _).bind fun _ ↦ maintains_pure _
      | none => exact Server.keeps_openSockets (P := P) hkeep _ _ _ _

end

end Udtcp
