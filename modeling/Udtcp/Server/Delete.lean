import Udtcp.Client.Silent
import Udtcp.Server.Created

/-!
# What the user hears of creation and deletion

`udtcp_create_server` calls nobody back when it succeeds. `udtcp_delete_server` of
`delete_server.c:33–84` reports the clients of all slots that are still there, one after the other.
-/

namespace Udtcp

open Interaction Routine

section

variable {m : Nat} {t t' : Thread (UdtcpServer m)} {tr : Trace posix}

namespace Server

private theorem emits_releaseSends (s : UdtcpServer m) (is : List Nat) :
    Emits Silent (releaseSends s is) := by
  induction is with
  | nil => exact emits_pure _
  | cons i is ih =>
    refine (emits_requestSilent rfl).bind fun send ↦ .ite ?_ ?_
    · exact (emits_freeBlock _).bind fun _ ↦ (emits_issue fun _ ↦ rfl).bind fun _ ↦ ih
    · exact (emits_pure _).bind fun _ ↦ (emits_issue fun _ ↦ rfl).bind fun _ ↦ ih

/-- The clients of the slots that are not marked, reported one after the other. -/
def farewells (s : UdtcpServer m) (is : List Nat) : List Callback :=
  (is.filter fun i ↦ (s.pollFds i).fd ≠ -1).map fun i ↦ .disconnect i (s.infos i)

private theorem callbacksOf_releaseClients {s : UdtcpServer m} {is : List Nat} {u : Unit}
    (hcb : s.disconnectCallback = true) (h : Exec (releaseClients s is) t tr u t') :
    callbacksOf tr = farewells s is := by
  induction is generalizing t tr with
  | nil =>
    obtain ⟨rfl, -, -⟩ := exec_pure.mp h
    rfl
  | cons i is ih =>
    obtain ⟨tr₁, _, t₁, tr₂, rfl, hshut, hrest⟩ := exec_bind.mp h
    obtain ⟨tr₃, _, t₂, tr₄, rfl, hclose, hrest⟩ := exec_bind.mp hrest
    rw [callbacksOf_append, callbacksOf_append,
      callbacksOf_eq_nil (emits_shutdownIfOpen _ _ _ _ _ hshut),
      callbacksOf_eq_nil (emits_closeIfOpen _ _ _ _ _ hclose), List.nil_append, List.nil_append]
    rw [exec_ite] at hrest
    split at hrest
    · next hopen =>
      obtain ⟨v, rest, rfl, hnext⟩ := exec_issue_bind.mp hrest
      rw [farewells, List.filter_cons_of_pos (by simpa using hopen.1), List.map_cons]
      exact congrArg (_ :: ·) (ih hnext)
    · next hclosed =>
      have hmarked : (s.pollFds i).fd = -1 := by
        by_contra hfd
        exact hclosed ⟨hfd, hcb⟩
      rw [farewells, List.filter_cons_of_neg (by simp [hmarked])]
      exact ih hrest

end Server

/-- **Deletion** reports every client that is still there. -/
theorem callbacksOf_udtcpDeleteServer {u : Unit} (hcb : t.self.disconnectCallback = true)
    (h : Exec udtcpDeleteServer t tr u t') :
    callbacksOf tr = Server.farewells t.self (List.range' 2 (t.self.pollNfds - 2)) := by
  unfold udtcpDeleteServer at h
  rw [exec_self_bind] at h
  obtain ⟨tr₁, _, t₁, _, rfl, h₁, h⟩ := exec_bind.mp h
  obtain ⟨tr₂, _, t₂, _, rfl, h₂, h⟩ := exec_bind.mp h
  obtain ⟨tr₃, _, t₃, _, rfl, h₃, h⟩ := exec_bind.mp h
  obtain ⟨tr₄, _, t₄, _, rfl, h₄, h⟩ := exec_bind.mp h
  obtain ⟨tr₅, _, t₅, rest, rfl, h₅, h⟩ := exec_bind.mp h
  have hend : Emits Silent (if 0 < t.self.buffer.bufferSize then
      freeBlock t.self.buffer.bufferData >>= fun _ ↦ issue .freeServer
    else pure () >>= fun _ ↦ issue .freeServer : ServerProc m Unit) :=
    .ite ((emits_freeBlock _).bind fun _ ↦ emits_issue fun _ ↦ rfl)
      ((emits_pure _).bind fun _ ↦ emits_issue fun _ ↦ rfl)
  rw [callbacksOf_append, callbacksOf_append, callbacksOf_append, callbacksOf_append,
    callbacksOf_append, callbacksOf_eq_nil (emits_closeIfOpen _ _ _ _ _ h₁),
    callbacksOf_eq_nil (emits_closeIfOpen _ _ _ _ _ h₂),
    callbacksOf_eq_nil (emits_closeIfOpen _ _ _ _ _ h₃),
    callbacksOf_eq_nil (Server.emits_releaseSends _ _ _ _ _ _ h₄),
    Server.callbacksOf_releaseClients hcb h₅, callbacksOf_eq_nil (hend _ _ _ _ h)]
  simp

/-! ### Deletion can happen -/

namespace Server

private theorem may_releaseSends (s : UdtcpServer m) (is : List Nat) (u : Thread (UdtcpServer m)) :
    May (releaseSends s is) u fun _ _ _ ↦ True := by
  induction is with
  | nil => exact may_pure trivial
  | cons i is ih =>
    refine may_request_bind .zero (may_if_neg (by decide) ?_)
    exact may_issue_bind () (ih.mono fun _ _ _ _ ↦ trivial)

private theorem may_releaseClients (s : UdtcpServer m) (is : List Nat)
    (u : Thread (UdtcpServer m)) : May (releaseClients s is) u fun _ _ _ ↦ True := by
  induction is generalizing u with
  | nil => exact may_pure trivial
  | cons i is ih =>
    refine may_bind ((may_shutdownIfOpen u _).mono fun _ _ u₁ _ ↦ ?_)
    refine may_bind ((may_closeIfOpen u₁ _).mono fun _ _ u₂ _ ↦ ?_)
    by_cases hcb : (s.pollFds i).fd ≠ -1 ∧ s.disconnectCallback
    · exact may_if_pos hcb (may_issue_bind () ((ih u₂).mono fun _ _ _ _ ↦ trivial))
    · exact may_if_neg hcb ((ih u₂).mono fun _ _ _ _ ↦ trivial)

end Server

/-- A server can be deleted. -/
theorem may_udtcpDeleteServer (t : Thread (UdtcpServer m)) :
    May udtcpDeleteServer t fun _ _ _ ↦ True := by
  unfold udtcpDeleteServer
  refine may_self_bind (may_bind ((may_closeIfOpen t _).mono fun _ _ t₁ _ ↦ ?_))
  refine may_bind ((may_closeIfOpen t₁ _).mono fun _ _ t₂ _ ↦ ?_)
  refine may_bind ((may_closeIfOpen t₂ _).mono fun _ _ t₃ _ ↦ ?_)
  refine may_bind ((Server.may_releaseSends _ _ t₃).mono fun _ _ t₄ _ ↦ ?_)
  refine may_bind ((Server.may_releaseClients _ _ t₄).mono fun _ _ t₅ _ ↦ ?_)
  by_cases hsize : 0 < t.self.buffer.bufferSize
  · refine may_if_pos hsize ?_
    cases t.self.buffer.bufferData with
    | none => exact may_issue () trivial
    | some b => exact may_issue_bind () (may_issue () trivial)
  · exact may_if_neg hsize (may_issue () trivial)

/-! ### Creation -/

namespace Server

private theorem emits_clearSends (s : UdtcpServer m) (is : List Nat) :
    Emits Silent (clearSends s is) := by
  induction is with
  | nil => exact emits_pure _
  | cons i is ih => exact (emits_issue fun _ ↦ rfl).bind fun _ ↦ ih

private theorem emits_destroyMutexes (s : UdtcpServer m) (is : List Nat) :
    Emits Silent (destroyMutexes s is) := by
  induction is with
  | nil => exact emits_pure _
  | cons i is ih => exact (emits_issue fun _ ↦ rfl).bind fun _ ↦ ih

private theorem emits_initMutexes (s : UdtcpServer m) (is : List Nat) :
    Emits Silent (initMutexes s is) := by
  induction is with
  | nil => exact emits_pure _
  | cons i is ih => exact (emits_requestSilent rfl).bind fun _ ↦ .ite ih (emits_pure _)

private theorem emits_setStringInfos (addr : UdtcpInfos → SockaddrIn) :
    Emits Silent (udtcpSetStringInfos addr) := by
  refine emits_self.bind fun r ↦ (emits_requestSilent rfl).bind fun name ↦ ?_
  cases name with
  | none =>
    exact emits_self.bind fun r ↦ (emits_copyTextSilent _ _).bind fun _ ↦ emits_copyTextSilent _ _
  | some text =>
    exact (emits_copyTextSilent _ _).bind fun _ ↦ emits_self.bind fun r ↦ emits_copyTextSilent _ _

private theorem emitsFor_abandon :
    EmitsFor Silent (· = 0) (abandon : ServerProc m Int) :=
  emitsFor_of_not fun _ _ _ _ h hzero ↦ by cases (exec_abandon h).symm.trans hzero

private theorem emitsFor_releaseServer (opened : List Fd) :
    EmitsFor Silent (· = 0) (releaseServer opened : ServerProc m Int) :=
  emitsFor_of_not fun _ _ _ _ h hzero ↦ by cases (exec_releaseServer h).symm.trans hzero

private theorem emits_finishServer : Emits Silent (finishServer : ServerProc m Int) := by
  refine (emits_update _).bind fun _ ↦ .bind ?_ fun _ ↦
    (emits_update _).bind fun _ ↦ emits_pure _
  unfold onInfos onPart
  exact (emits_setStringInfos _).zoom

private theorem emitsFor_listenServer :
    EmitsFor Silent (· = 0) (listenServer : ServerProc m Int) := by
  refine .bind (emits_update _) fun _ ↦ .bind emits_self fun s ↦
    .bind (emits_syscall fun _ ↦ rfl) fun r ↦ ?_
  cases r with
  | error e => exact emitsFor_abandon
  | ok u =>
    refine .bind emits_self fun s ↦ .bind (emits_addOption _ _) fun o ↦ .ite emitsFor_abandon ?_
    refine .bind emits_self fun s ↦ .bind (emits_addOption _ _) fun o ↦ .ite emitsFor_abandon ?_
    exact emits_finishServer.emitsFor

private theorem emitsFor_bindSockets (host : Hostent) (p q r : UInt16) :
    EmitsFor Silent (· = 0) (bindSockets host p q r : ServerProc m Int) := by
  refine .bind (emits_update _) fun _ ↦ .bind emits_self fun s ↦ .bind emits_self fun s' ↦
    .bindOption (emits_bindSocket _ _) emitsFor_abandon fun _ ↦ ?_
  refine .bind (emits_update _) fun _ ↦ .bind emits_self fun s ↦ .bind emits_self fun s' ↦
    .bindOption (emits_bindSocket _ _) emitsFor_abandon fun _ ↦ ?_
  refine .bind (emits_update _) fun _ ↦ .bind emits_self fun s ↦ .bind emits_self fun s' ↦
    .bindOption (emits_bindSocket _ _) emitsFor_abandon fun _ ↦ ?_
  exact .bind (emits_update _) fun _ ↦ emitsFor_listenServer

private theorem emitsFor_openSockets (host : Hostent) (p q r : UInt16) :
    EmitsFor Silent (· = 0) (openSockets host p q r : ServerProc m Int) := by
  refine .bind (emits_syscall fun _ ↦ rfl) fun tcp ↦ ?_
  cases tcp with
  | error e => exact emitsFor_releaseServer _
  | ok tcp =>
    refine .bind (emits_update _) fun _ ↦ .bind (emits_update _) fun _ ↦
      .bind (emits_update _) fun _ ↦ .bind (emits_syscall fun _ ↦ rfl) fun udp ↦ ?_
    cases udp with
    | error e => exact emitsFor_releaseServer _
    | ok udp =>
      refine .bind (emits_update _) fun _ ↦ .bind (emits_update _) fun _ ↦
        .bind (emits_update _) fun _ ↦ .bind (emits_syscall fun _ ↦ rfl) fun other ↦ ?_
      cases other with
      | error e => exact emitsFor_releaseServer _
      | ok other => exact .bind (emits_update _) fun _ ↦ emitsFor_bindSockets _ _ _ _

end Server

/-- **Creation** that succeeds calls nobody back. -/
theorem callbacksOf_udtcpCreateServer {hostname : List UInt8} {p q r : UInt16}
    (h : Exec (udtcpCreateServer hostname p q r) t tr 0 t') : callbacksOf tr = [] := by
  have hsilent : EmitsFor Silent (· = 0) (udtcpCreateServer hostname p q r : ServerProc m Int) := by
    refine .bind (emits_requestSilent rfl) fun host ↦ ?_
    cases host with
    | none =>
      exact .bind (emits_setErrno _) fun _ ↦ emitsFor_pure _
    | some host =>
      refine .bind (emits_syscall fun _ ↦ rfl) fun addr ↦ ?_
      cases addr with
      | error e => exact emitsFor_pure _
      | ok addr =>
        refine .bind (emits_update _) fun _ ↦ .bind emits_self fun s ↦
          .bind (Server.emits_clearSends _ _) fun _ ↦ .bind (Server.emits_initMutexes _ _)
            fun o ↦ ?_
        cases o with
        | none => exact Server.emitsFor_openSockets _ _ _ _
        | some i =>
          exact .bind (Server.emits_destroyMutexes _ _) fun _ ↦
            .bind (emits_issue fun _ ↦ rfl) fun _ ↦ emitsFor_pure _
  exact callbacksOf_eq_nil (hsilent _ _ _ _ h rfl)

end

end Udtcp
