import Udtcp.Interaction.Holdings
import Udtcp.Posix.Call

/-!
# A ledger of buffers

Which blocks `udtcp_new_buffer` handed out that `udtcp_free_buffer` has not taken back, whether
anything else was ever taken back, and whether a block was used behind that
(`udtcp/src/new_free.c:31–41`). Beside the ledger stand the send structures, which are memory.
-/

namespace Udtcp

open Interaction Routine

/-- What a call does with blocks. An access to a send structure uses the block in it; what a
callback is handed lies in the block that was received into last. -/
inductive BufferUse where
  | granted (ptr : Nat)
  | freed (ptr : Nat)
  | touched (ptr : Option Nat)
  | filled (ptr : Option Nat)
  | handed
  deriving DecidableEq, Repr

/-- What a call does with blocks, if anything. -/
def bufferUseOf : (c : Call) → c.Reply → Option BufferUse
  | .sys (.newBuffer _), .ok block => some (.granted block.val.ptr)
  | .sys (.recv _ (.buffer ptr _ _) _), _ => some (.filled ptr)
  | .sys (.recvfrom _ (.buffer ptr _ _) _ _), _ => some (.filled ptr)
  | .freeBuffer ptr, _ => some (.freed ptr)
  | .loadSend _, s => some (.touched (s.buffer.map Block.ptr))
  | .storeSend _ s, _ => some (.touched (s.buffer.map Block.ptr))
  | .callback (.receiveTcp _ _ _), _ => some .handed
  | .callback (.receiveUdp _ _ _), _ => some .handed
  | _, _ => none

/-- What a trace does with blocks, oldest first. -/
def bufferUses (tr : Trace posix) : List BufferUse :=
  tr.filterMap fun e ↦ bufferUseOf e.call e.reply

/-- The blocks that are to be freed, the one that was received into last, and whether something else
was ever freed or a block used that was not live. -/
structure BufferLedger where
  live : Finset Nat
  last : Option Nat
  misused : Bool

namespace BufferLedger

/-- Nothing was handed out yet. -/
def empty : BufferLedger := ⟨∅, none, false⟩

/-- The pointer leads to a block that is not live. -/
def stale (l : BufferLedger) : Option Nat → Bool
  | none => false
  | some ptr => ptr ∉ l.live

/-- The ledger behind a use. -/
def enter (l : BufferLedger) : BufferUse → BufferLedger
  | .granted ptr => { l with live := insert ptr l.live }
  | .freed ptr => { l with live := l.live.erase ptr, misused := l.misused || l.stale (some ptr) }
  | .touched ptr => { l with misused := l.misused || l.stale ptr }
  | .filled ptr => { l with last := ptr, misused := l.misused || l.stale ptr }
  | .handed => { l with misused := l.misused || l.stale l.last }

/-- The number of times a pointer is still to be freed. -/
def owes (l : BufferLedger) (ptr : Nat) : Nat := if ptr ∈ l.live then 1 else 0

/-- Every block was freed, and nothing was misused on the way. -/
structure Balanced (l : BufferLedger) : Prop where
  freed : l.live = ∅
  unmisused : l.misused = false

/-- A misuse is never forgotten. -/
theorem misused_enter {l : BufferLedger} (h : l.misused = true) (use : BufferUse) :
    (l.enter use).misused = true := by
  cases use <;> simp [enter, h]

/-- A live block is not stale. -/
theorem stale_eq_false {l : BufferLedger} {ptr : Nat} (h : ptr ∈ l.live) :
    l.stale (some ptr) = false := by
  simpa [stale] using h

end BufferLedger

/-- The blocks of a process, and its send structures: what was stored at an address, if anything. -/
structure Heap where
  ledger : BufferLedger
  cells : UInt64 → Option UdtcpSend

namespace Heap

/-- Before the first call. -/
def start : Heap := ⟨.empty, fun _ ↦ none⟩

/-- What is asked of the surroundings: a new block is not one that is still live, a load reports the
last store but for the bytes of the mutex, and names fit into `hostname`. -/
def Allows (h : Heap) : (c : Call) → c.Reply → Prop
  | .sys (.newBuffer _), .ok block => block.val.ptr ∉ h.ledger.live
  | .loadSend addr, s => ∀ v, h.cells addr = some v → ∃ mutex, s = { v with mutex := mutex }
  | .gethostbyaddr _, some name => NameFits name
  | _, _ => True

/-- The send structures behind a call. -/
def write (h : Heap) : Call → UInt64 → Option UdtcpSend
  | .storeSend addr s => Function.update h.cells addr (some s)
  | _ => h.cells

/-- The heap behind a call. -/
def after (h : Heap) (c : Call) (r : c.Reply) : Heap :=
  ⟨(bufferUseOf c r).elim h.ledger h.ledger.enter, h.write c⟩

end Heap

/-- The surroundings of a server or a client, as far as its buffers depend on them. -/
def heapKernel : Kernel posix Heap := fun h c r h' ↦ h.Allows c r ∧ h' = h.after c r

/-- The call neither uses a block nor writes to a send structure. -/
def Call.inert : Call → Bool
  | .sys (.newBuffer _) => false
  | .sys (.recv _ (.buffer _ _ _) _) => false
  | .sys (.recvfrom _ (.buffer _ _ _) _ _) => false
  | .freeBuffer _ => false
  | .loadSend _ => false
  | .storeSend _ _ => false
  | .callback (.receiveTcp _ _ _) => false
  | .callback (.receiveUdp _ _ _) => false
  | _ => true

private theorem bufferUseOf_eq_none {c : Call} (hc : c.inert = true) (r : c.Reply) :
    bufferUseOf c r = none := by
  cases c with
  | sys c =>
    cases c with
    | newBuffer size => cases hc
    | recv fd target len =>
      cases target with
      | buffer ptr cap offset => cases hc
      | word => cases r <;> rfl
      | record => cases r <;> rfl
    | recvfrom fd target len peek =>
      cases target with
      | buffer ptr cap offset => cases hc
      | word => cases r <;> rfl
      | record => cases r <;> rfl
    | _ => cases r <;> rfl
  | callback cb => cases cb <;> first | rfl | cases hc
  | freeBuffer ptr => cases hc
  | loadSend addr => cases hc
  | storeSend addr s => cases hc
  | _ => rfl

private theorem Heap.after_of_inert (h : Heap) {c : Call} (hc : c.inert = true) (r : c.Reply) :
    h.after c r = h := by
  have hwrite : h.write c = h.cells := by
    cases c <;> first | rfl | cases hc
  rw [after, bufferUseOf_eq_none hc, hwrite]
  rfl

/-- Calls the heap does not see leave it as it is. -/
theorem heapKernel_of_inert {h h' : Heap} {c : Call} {r : c.Reply} (hc : c.inert = true)
    (hk : heapKernel h c r h') : h' = h := hk.2.trans (h.after_of_inert hc r)

private theorem owes_step {h h' : Heap} {c : Call} {r : c.Reply} (hk : heapKernel h c r h')
    (hm : h'.ledger.misused = false) (ptr : Nat) :
    (bufferUseOf c r).toList.count (.granted ptr) + h.ledger.owes ptr =
      (bufferUseOf c r).toList.count (.freed ptr) + h'.ledger.owes ptr := by
  obtain ⟨hallow, rfl⟩ := hk
  rw [Heap.after] at hm ⊢
  cases huse : bufferUseOf c r with
  | none => rfl
  | some use =>
    rw [huse] at hm
    change (List.count _ [use]) + _ = (List.count _ [use]) + (h.ledger.enter use).owes ptr
    have hm : (h.ledger.enter use).misused = false := hm
    cases use with
    | granted new =>
      have hnew : new ∉ h.ledger.live := by
        unfold bufferUseOf at huse
        split at huse <;> cases huse
        exact hallow
      by_cases heq : new = ptr
      · subst heq
        simp [BufferLedger.owes, BufferLedger.enter, hnew]
      · simp [BufferLedger.owes, BufferLedger.enter, heq, Ne.symm heq]
    | freed old =>
      have hold : old ∈ h.ledger.live := by
        simpa [BufferLedger.enter, BufferLedger.stale] using (Bool.or_eq_false_iff.mp hm).2
      by_cases heq : old = ptr
      · subst heq
        simp [BufferLedger.owes, BufferLedger.enter, hold]
      · simp [BufferLedger.owes, BufferLedger.enter, heq, Ne.symm heq]
    | touched p => rfl
    | filled p => rfl
    | handed => rfl

section

variable {h h' : Heap} {tr : Trace posix}

private theorem unmisused_of_accepts (ha : heapKernel.Accepts h tr h')
    (hm : h'.ledger.misused = false) : h.ledger.misused = false := by
  by_contra hne
  have htrue : h.ledger.misused = true := by simpa using hne
  have hend : h'.ledger.misused = true := by
    refine ha.invariant (I := fun k ↦ k.ledger.misused = true) ?_ htrue
    rintro e - k₁ k₂ hk ⟨-, rfl⟩
    rw [Heap.after]
    cases bufferUseOf e.call e.reply with
    | none => exact hk
    | some use => exact BufferLedger.misused_enter hk use
  rw [hm] at hend
  cases hend

/-- Over a run without misuse, every pointer was handed out as often as it was freed or is still
live. -/
theorem count_granted (ha : heapKernel.Accepts h tr h') (hm : h'.ledger.misused = false)
    (ptr : Nat) : (bufferUses tr).count (.granted ptr) + h.ledger.owes ptr =
      (bufferUses tr).count (.freed ptr) + h'.ledger.owes ptr := by
  induction tr generalizing h with
  | nil =>
    obtain rfl := ha
    rfl
  | cons e tr ih =>
    obtain ⟨h₁, hk, hrest⟩ := ha
    have hstep := owes_step hk (unmisused_of_accepts hrest hm) ptr
    have hcons : bufferUses (e :: tr) = (bufferUseOf e.call e.reply).toList ++ bufferUses tr := by
      rw [bufferUses, List.filterMap_cons]
      cases bufferUseOf e.call e.reply <;> rfl
    have hih := ih hrest
    rw [hcons, List.count_append, List.count_append]
    omega

/-- A balanced ledger: every pointer was freed exactly as often as it was handed out. -/
theorem BufferLedger.Balanced.count_eq (hb : h'.ledger.Balanced)
    (ha : heapKernel.Accepts .start tr h') (ptr : Nat) :
    (bufferUses tr).count (.granted ptr) = (bufferUses tr).count (.freed ptr) := by
  have hcount := count_granted ha hb.unmisused ptr
  have hend : h'.ledger.owes ptr = 0 := by simp [owes, hb.freed]
  rw [hend] at hcount
  exact hcount

end

end Udtcp
