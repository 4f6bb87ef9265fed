import Udtcp.Client.Poll
import Udtcp.Server.Rounds

/-!
# Rules for passes, one socket at a time

A pass of either role in any environment, from what serving one of its sockets keeps, up to the
disconnection that may end it. Between a reception that fails and that disconnection nothing need
hold.
-/

namespace Udtcp

open Interaction Routine

variable {K : Type} {ker : Kernel posix K}

/-- What the deletion of an entry keeps, the compaction of the table keeps. -/
theorem UdtcpServer.compact_congr {m : Nat} {α : Type} (f : UdtcpServer m → α)
    (hf : ∀ s i, f (s.removeSlot i) = f s) (s : UdtcpServer m) : f s.compact = f s := by
  have hfrom (rounds i : Nat) (s : UdtcpServer m) : f (s.compactFrom rounds i) = f s := by
    induction rounds generalizing i s with
    | zero => rfl
    | succ rounds ih =>
      unfold UdtcpServer.compactFrom
      split
      · split
        · exact (ih i _).trans (hf s i)
        · exact ih (i + 1) s
      · rfl
  exact hfrom _ _ s

namespace Server

variable {m : Nat} {I : Thread (UdtcpServer m) → K → Prop}

/-- What a pass of a server must keep up to the compaction of the table. -/
structure ScanRules (ker : Kernel posix K) (I : Thread (UdtcpServer m) → K → Prop) : Prop where
  poll : ∀ fds timeout t k r k', I t k → ker k (.sys (.poll fds timeout)) r k' → I (t.note r) k'
  revents : ∀ t k revents, I t k → I { t with self := t.self.setRevents revents } k
  flag : ∀ t k r k', I t k → ker k .pollLoop r k' → I t k'
  acceptClient : Maintains ker I acceptClient
  receiveUdp : Maintains ker I receiveUdp
  serveClient : ∀ fuel slot, Maintains ker I (serveClient fuel slot)

/-- What a pass of a server must keep. -/
structure ServingRules (ker : Kernel posix K) (I : Thread (UdtcpServer m) → K → Prop) : Prop
    extends ScanRules ker I where
  compact : ∀ t k, I t k → I { t with self := t.self.compact } k

private theorem maintains_drain {body : ServerProc m Int} {again : Int → Bool} {fuel : Nat}
    (hflag : ∀ t k r k', I t k → ker k .pollLoop r k' → I t k') (hbody : Maintains ker I body) :
    Maintains ker I (drain fuel body again) :=
  fun t k hI ↦ must_drain (fun _ t k r k' ↦ hflag t k r k') (hbody t k hI)
    fun _ t k hI _ ↦ hbody t k hI

/-- **Serving a client**, from what a reception and a disconnection keep. -/
theorem maintains_serveClient {fuel slot : Nat}
    (hflag : ∀ t k r k', I t k → ker k .pollLoop r k' → I t k')
    (hreceive : Maintains ker I (receiveTcp slot)) (hdrop : Maintains ker I (dropClient slot)) :
    Maintains ker I (serveClient fuel slot) := by
  have hleave : Maintains ker I (do
      dropClient slot
      return true : ServerProc m Bool) := hdrop.bind fun _ ↦ maintains_pure _
  unfold serveClient
  refine (maintains_drain hflag hreceive).bind fun n ↦ .ite ?_ (.ite hleave (maintains_pure _))
  exact maintains_errno.bind fun e ↦ .ite hleave (maintains_pure _)

namespace ScanRules

variable {J : Thread (UdtcpServer m) → K → Prop} {t : Thread (UdtcpServer m)} {k : K}

private theorem serveSlot (h : ScanRules ker I) (fuel slot : Nat) :
    Maintains ker I (serveSlot fuel slot) := by
  unfold Udtcp.serveSlot
  refine maintains_self.bind fun s ↦ .ite (maintains_pure _) (.ite (maintains_pure _) ?_)
  refine .ite ((maintains_drain h.flag h.acceptClient).bind fun _ ↦ maintains_pure _) ?_
  refine .ite ((maintains_drain h.flag h.receiveUdp).bind fun _ ↦ maintains_pure _) ?_
  exact h.serveClient fuel slot

/-- **Rule for passes** of a server: it keeps `I` up to the compaction, and `J` holds at its end. -/
theorem must_udtcpServerPoll (h : ScanRules ker I) (hIJ : ∀ t k, I t k → J t k)
    (hcompact : ∀ t k, I t k → J { t with self := t.self.compact } k) (fuel : Nat) (timeout : Int)
    (hI : I t k) : Must ker (udtcpServerPoll fuel timeout) t k fun _ ↦ J := by
  have hscan (i : Nat × Bool) : Maintains ker I (scanSlot fuel i : ServerProc m _) := by
    unfold scanSlot
    refine (maintains_perform h.flag).bind fun on ↦ maintains_self.bind fun s ↦ ?_
    exact .ite ((h.serveSlot fuel i.1).bind fun marked ↦ maintains_pure _) (maintains_pure _)
  unfold udtcpServerPoll
  refine must_self_bind (must_syscall_bind fun reply k₁ hk ↦ ?_)
  have hI₁ := h.poll _ _ t k reply k₁ hI hk
  cases reply with
  | error e =>
    exact must_errno_bind (must_ite (fun _ ↦ must_pure (hIJ _ _ hI₁)) fun _ ↦
      must_pure (hIJ _ _ hI₁))
  | ok revents =>
    have hI₂ := h.revents _ _ (reventsAt revents) hI₁
    refine must_update_bind (must_ite (fun _ ↦ must_pure (hIJ _ _ hI₂)) fun _ ↦ ?_)
    refine must_bind ((Maintains.loop hscan fuel _ _ _ hI₂).mono fun organise t₃ k₃ hI₃ ↦ ?_)
    refine must_ite (fun _ ↦ must_update_bind (must_pure (hcompact _ _ hI₃))) fun _ ↦ ?_
    exact must_pure (hIJ _ _ hI₃)

end ScanRules

/-- **Rule for passes** of a server. -/
theorem ServingRules.maintains_udtcpServerPoll (h : ServingRules ker I) (fuel : Nat)
    (timeout : Int) : Maintains ker I (udtcpServerPoll fuel timeout : ServerProc m UdtcpPoll) :=
  fun _ _ ↦ h.must_udtcpServerPoll (fun _ _ hI ↦ hI) h.compact fuel timeout

/-- What a pass must keep. -/
structure PassRules (ker : Kernel posix K) (I : Thread (UdtcpServer m) → K → Prop) : Prop where
  poll : ∀ fds timeout t k r k', I t k → ker k (.sys (.poll fds timeout)) r k' → I (t.note r) k'
  revents : ∀ t k revents, I t k → I { t with self := t.self.setRevents revents } k
  flag : ∀ t k r k', I t k → ker k .pollLoop r k' → I t k'
  acceptClient : Maintains ker I acceptClient
  receiveTcp : ∀ slot, Maintains ker I (receiveTcp slot)
  receiveUdp : Maintains ker I receiveUdp
  dropClient : ∀ slot, Maintains ker I (dropClient slot)
  compact : ∀ t k, I t k → I { t with self := t.self.compact } k

/-- **Rule for passes.** -/
theorem PassRules.maintains_udtcpServerPoll (h : PassRules ker I) (fuel : Nat) (timeout : Int) :
    Maintains ker I (udtcpServerPoll fuel timeout : ServerProc m UdtcpPoll) := by
  have hserving : ServingRules ker I := { h with
    serveClient := fun _ slot ↦
      maintains_serveClient h.flag (h.receiveTcp slot) (h.dropClient slot) }
  exact hserving.maintains_udtcpServerPoll fuel timeout

end Server

namespace Client

variable {I : Thread UdtcpClient → K → Prop}

/-- What a pass of a client must keep. -/
structure ServingRules (ker : Kernel posix K) (I : Thread UdtcpClient → K → Prop) : Prop where
  poll : ∀ fds timeout t k r k', I t k → ker k (.sys (.poll fds timeout)) r k' → I (t.note r) k'
  revents : ∀ t k revents, I t k → I { t with self := t.self.setRevents revents } k
  flag : ∀ t k r k', I t k → ker k .pollLoop r k' → I t k'
  serveTcp : ∀ fuel, Maintains ker I (serveSocket fuel receiveTcp)
  serveUdp : ∀ fuel, Maintains ker I (serveSocket fuel receiveUdp)

namespace ServingRules

private theorem scanned (h : ServingRules ker I) (fuel i : Nat) :
    Maintains ker I (scanEntry fuel i) := by
  have hserve : Maintains ker I (serveEntry fuel i) := by
    unfold serveEntry
    refine maintains_self.bind fun c ↦ .ite (maintains_pure _) (.ite (maintains_pure _) ?_)
    exact .ite (h.serveTcp fuel) (.ite (h.serveUdp fuel) (maintains_pure _))
  unfold scanEntry
  refine (maintains_perform h.flag).bind fun on ↦ maintains_self.bind fun c ↦
    .ite ?_ (maintains_pure _)
  refine hserve.bind fun result ↦ ?_
  cases result <;> exact maintains_pure _

/-- **Rule for passes** of a client. -/
theorem maintains_udtcpClientPoll (h : ServingRules ker I) (fuel : Nat) (timeout : Int) :
    Maintains ker I (udtcpClientPoll fuel timeout) := by
  unfold udtcpClientPoll
  refine maintains_self.bind fun c ↦ (maintains_syscall (h.poll _ _)).bind fun reply ↦ ?_
  cases reply with
  | error e => exact maintains_errno.bind fun e ↦ .ite (maintains_pure _) (maintains_pure _)
  | ok revents =>
    exact (maintains_update fun t k hI ↦ h.revents t k _ hI).bind fun _ ↦
      .ite (maintains_pure _) (Maintains.loop (h.scanned fuel) fuel 0)

end ServingRules

end Client

end Udtcp
