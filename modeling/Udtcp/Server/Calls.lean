import Udtcp.Server.Accept

/-!
# Which calls accepting a client makes

A property of system calls, lookups, accesses to send structures and announcements holds of every
call of `accept_client`, `server_poll.c:105–195`. In particular the user hears of nothing but the
connection, and an observer of connections sees what the user hears.
-/

namespace Udtcp

open Interaction Routine

section

variable {m : Nat} {P : Event posix → Prop}

/-- The system calls of `accept_client`. -/
def SysCall.admits : SysCall → Bool
  | .accept _ => true
  | .getfl _ => true
  | .setfl _ _ => true
  | .poll _ _ => true
  | .send _ _ => true
  | .recv _ .record _ => true
  | .close _ => true
  | _ => false

/-- What a property must hold of to hold of every call of `accept_client`. -/
structure AcceptCalls (P : Event posix → Prop) : Prop where
  sys : ∀ c r, c.admits = true → P ⟨.sys c, r⟩
  lookup : ∀ key r, P ⟨.gethostbyaddr key, r⟩
  load : ∀ addr r, P ⟨.loadSend addr, r⟩
  store : ∀ addr value r, P ⟨.storeSend addr value, r⟩
  announce : ∀ slot infos r, P ⟨.callback (.connect slot infos), r⟩

private theorem emits_copyText (offset : Nat) (text : List UInt8) :
    Emits P (copyText offset text) := by
  refine .ite (emits_update _) fun t tr u t' h ↦ ?_
  exact (exec_crash h).elim

private theorem emits_onInfos {α : Type} {slot : Nat} {p : Proc UdtcpInfos α} (h : Emits P p) :
    Emits P (onInfos slot p : ServerProc m α) := by
  unfold onInfos onPart
  exact h.zoom

variable (hP : AcceptCalls P)

include hP

private theorem emits_admits {τ : Type} {c : SysCall} (hc : c.admits = true) :
    Emits P (syscall c : Proc τ _) := emits_syscall fun r ↦ hP.sys c r hc

private theorem emits_udtcpSetStringInfos (addr : UdtcpInfos → SockaddrIn) :
    Emits P (udtcpSetStringInfos addr) := by
  refine emits_self.bind fun r ↦ (emits_perform (hP.lookup _)).bind fun name ↦ ?_
  cases name with
  | none => exact emits_self.bind fun r ↦ (emits_copyText _ _).bind fun _ ↦ emits_copyText _ _
  | some text =>
    exact (emits_copyText _ _).bind fun _ ↦ emits_self.bind fun r ↦ emits_copyText _ _

private theorem emits_writeRecord (slot : Nat) (bs : List UInt8) :
    Emits P (writeRecord slot bs : ServerProc m Unit) := by
  refine (emits_update _).bind fun _ ↦ ?_
  cases bs[UdtcpInfos.sizeof]? with
  | none => exact emits_pure _
  | some b =>
    refine .ite (emits_update _) (emits_self.bind fun s ↦ ?_)
    exact (emits_perform (hP.load _)).bind fun value ↦ emits_issue (hP.store _ _)

private theorem emits_initializeConnection (slot : Nat) :
    Emits P (initializeConnection slot : ServerProc m Int) := by
  unfold initializeConnection
  refine emits_self.bind fun s ↦ (emits_admits hP rfl).bind fun sent ↦ ?_
  refine .ite (emits_pure _) (((emits_admits hP rfl).bind fun _ ↦ emits_pure _).bind fun n ↦ ?_)
  refine .ite (emits_pure _) (emits_self.bind fun s ↦ (emits_admits hP rfl).bind fun got ↦ ?_)
  cases got with
  | error e => exact emits_pure _
  | ok bs =>
    refine (emits_writeRecord hP _ _).bind fun _ ↦ .ite (emits_pure _) (emits_self.bind fun s ↦ ?_)
    exact (emits_update _).bind fun _ ↦ emits_pure _

private theorem emits_registerClient (slot : Nat) :
    Emits P (registerClient slot : ServerProc m Unit) := by
  unfold registerClient
  refine emits_self.bind fun s ↦ (emits_update _).bind fun _ ↦ ?_
  refine (emits_onInfos (emits_udtcpSetStringInfos hP _)).bind fun _ ↦ ?_
  refine (emits_update _).bind fun _ ↦ (emits_update _).bind fun _ ↦ emits_self.bind fun s ↦ ?_
  exact .ite ((emits_issue (hP.announce _ _)).bind fun _ ↦ emits_update _) (emits_update _)

private theorem emits_admitClient (slot : Nat) :
    Emits P (admitClient slot : ServerProc m Int) := by
  unfold admitClient
  refine emits_self.bind fun s ↦ (emits_udtcpSocketAddOption (fun r ↦ hP.sys _ r rfl)
    fun _ r ↦ hP.sys _ r rfl).bind fun o ↦ .ite ?_ ?_
  · exact emits_self.bind fun s ↦ (emits_admits hP rfl).bind fun _ ↦ emits_pure _
  · refine (emits_initializeConnection hP slot).bind fun k ↦ .ite ?_ ?_
    · exact emits_self.bind fun s ↦ (emits_admits hP rfl).bind fun _ ↦ emits_pure _
    · exact (emits_registerClient hP slot).bind fun _ ↦ emits_pure _

/-- The calls of an accept. -/
theorem emits_acceptClient : Emits P (acceptClient : ServerProc m Int) := by
  unfold acceptClient
  refine emits_self.bind fun s ↦ .ite ?_ ((emits_admits hP rfl).bind fun r ↦ ?_)
  · unfold refuseClient
    refine emits_self.bind fun s ↦ (emits_admits hP rfl).bind fun r ↦ ?_
    cases r with
    | error e => exact emits_pure _
    | ok a =>
      exact (emits_admits hP rfl).bind fun _ ↦ (emits_admits hP rfl).bind fun _ ↦
        emits_pure _
  · cases r with
    | error e => exact (emits_update _).bind fun _ ↦ emits_pure _
    | ok a => exact (emits_update _).bind fun _ ↦ emits_admitClient hP _

end

/-- The callback an observer of connections sees. -/
def announcementOf : Sighting → Option Callback
  | .connected slot infos => some (.connect slot infos)
  | _ => none

/-- What the user hears during an accept are the announcements an observer sees. -/
theorem callbacksOf_acceptClient {m : Nat} {t t' : Thread (UdtcpServer m)} {tr : Trace posix}
    {n : Int} (h : Exec acceptClient t tr n t') :
    callbacksOf tr = (sightings tr).filterMap announcementOf := by
  have hcalls : AcceptCalls fun e ↦
      callbackOf e.call = (sightingOf e.call e.reply).bind announcementOf := by
    refine ⟨fun c r _ ↦ ?_, fun key r ↦ ?_, fun _ _ ↦ rfl, fun _ _ _ ↦ rfl, fun _ _ _ ↦ rfl⟩
    · cases c
      case recv fd target len _ => cases target <;> cases r <;> rfl
      all_goals cases r <;> rfl
    · cases r <;> rfl
  rw [callbacksOf, sightings, List.filterMap_filterMap]
  exact List.filterMap_congr fun e he ↦ emits_acceptClient hcalls _ _ _ _ h e he

end Udtcp
