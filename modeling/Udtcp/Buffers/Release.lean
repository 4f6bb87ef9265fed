import Udtcp.Buffers.Kept
import Udtcp.Client.Create

/-!
# Freeing what is left

The two deletion functions free the receive buffer and each send structure's block if the size is
positive (`udtcp/src/delete_server.c:52–83`, `udtcp/src/delete_client.c:61–70`). While they do, some
of the structures still own their blocks.
-/

namespace Udtcp

open Interaction Routine

/-- The blocks whose owners are the receive buffer and the send structures at `addrs`. -/
def Heap.heldIn (h : Heap) (b : ReceiveBuffer) (addrs : List UInt64) : Option UInt64 → Option Nat
  | none => h.held b none
  | some addr => if addr ∈ addrs then h.held b (some addr) else none

/-- The middle of a deletion: the receive buffer and the send structures at `addrs` own the blocks
that are still live. -/
structure Releasing (b : ReceiveBuffer) (addrs : List UInt64) (h : Heap) : Prop where
  unmisused : h.ledger.misused = false
  holds : Holds (h.heldIn b addrs) h.ledger.live
  received : b.bufferData.isSome ↔ 0 < b.bufferSize
  sent : ∀ addr s, h.cells addr = some s → (s.buffer.isSome ↔ 0 < s.bufferSize)

section

variable {τ α : Type} {b : ReceiveBuffer} {addr : UInt64} {addrs : List UInt64} {t : Thread τ}
  {h : Heap} {Q : α → Thread τ → Heap → Prop}

/-- A deletion begins with all structures that have a block. -/
theorem Heap.Kept.releasing (hk : h.Kept b)
    (hown : ∀ addr s, h.cells addr = some s → s.buffer.isSome → addr ∈ addrs) :
    Releasing b addrs h := by
  refine ⟨hk.unmisused, ?_, hk.received, hk.sent⟩
  have hsame : h.heldIn b addrs = h.held b := by
    funext o
    cases o with
    | none => rfl
    | some addr =>
      by_cases hmem : addr ∈ addrs
      · exact if_pos hmem
      · rw [heldIn, if_neg hmem, held]
        cases hs : h.cells addr with
        | none => rfl
        | some s =>
          cases hblock : s.buffer with
          | none => exact (congrArg (Option.map Block.ptr) hblock).symm
          | some block => exact absurd (hown addr s hs (by rw [hblock]; rfl)) hmem
  rw [hsame]
  exact hk.holds

/-- Nothing is live when no structure and no buffer has a block. -/
theorem Releasing.balanced (hr : Releasing .empty [] h) : h.ledger.Balanced := by
  refine ⟨hr.holds.eq_empty fun o ↦ ?_, hr.unmisused⟩
  cases o with
  | none => rfl
  | some addr => rw [Heap.heldIn, if_neg List.not_mem_nil]

private theorem unmisused_free {h : Heap} {ptr : Nat} (hm : h.ledger.misused = false)
    (hlive : ptr ∈ h.ledger.live) : (h.after (.freeBuffer ptr) ()).ledger.misused = false := by
  change (h.ledger.misused || h.ledger.stale (some ptr)) = false
  rw [hm, BufferLedger.stale_eq_false hlive]
  rfl

private theorem must_freeIfSized {n : Nat} {block : Option Block} {p : Proc τ α}
    (hsize : block.isSome ↔ 0 < n) (hnone : block = none → Must heapKernel p t h Q)
    (hsome : ∀ x, block = some x → Must heapKernel p t (h.after (.freeBuffer x.ptr) ()) Q) :
    Must heapKernel (do
      if 0 < n then
        freeBlock block
      else
        pure ()
      p) t h Q := by
  refine must_ite (fun hpos ↦ ?_) fun hzero ↦ hnone ?_
  · obtain ⟨x, rfl⟩ := Option.isSome_iff_exists.mp (hsize.mpr hpos)
    refine must_issue_bind fun _ h' hfree ↦ ?_
    obtain ⟨-, rfl⟩ := hfree
    exact hsome x rfl
  · cases block with
    | none => rfl
    | some x => exact absurd (hsize.mp rfl) hzero

/-- Freeing the receive buffer. -/
theorem must_freeReceived {p : Proc τ α} (hr : Releasing b addrs h)
    (hp : ∀ h', h'.cells = h.cells → Releasing .empty addrs h' → Must heapKernel p t h' Q) :
    Must heapKernel (do
      if 0 < b.bufferSize then
        freeBlock b.bufferData
      else
        pure ()
      p) t h Q := by
  have hheld (l : BufferLedger) : Heap.heldIn ⟨l, h.cells⟩ .empty addrs =
      Function.update (h.heldIn b addrs) none none := by
    funext o
    cases o <;> rfl
  refine must_freeIfSized hr.received (fun hnone ↦ hp h rfl ?_) fun block hblock ↦ hp _ rfl ?_
  · refine ⟨hr.unmisused, ?_, by decide, hr.sent⟩
    have hkeep : Function.update (h.heldIn b addrs) none none = h.heldIn b addrs := by
      refine Function.update_eq_self_iff.mpr ?_
      rw [Heap.heldIn, Heap.held, hnone]
      rfl
    have hsame := hheld h.ledger
    rw [hkeep] at hsame
    rw [show h.heldIn .empty addrs = h.heldIn b addrs from hsame]
    exact hr.holds
  · have howner : h.heldIn b addrs none = some block.ptr := by
      rw [Heap.heldIn, Heap.held, hblock]
      rfl
    refine ⟨unmisused_free hr.unmisused (hr.holds.mem howner), ?_, by decide, hr.sent⟩
    exact (hheld _).symm ▸ hr.holds.give howner

/-- Freeing the block of the first of the structures, which is loaded for that. -/
theorem must_freeSent {s : UdtcpSend} {p : Proc τ α} (hr : Releasing b (addr :: addrs) h)
    (hfresh : addr ∉ addrs) (hs : h.cells addr = some s)
    (hp : ∀ h', h'.cells = h.cells → Releasing b addrs h' → Must heapKernel p t h' Q) :
    Must heapKernel (do
      let send ← request (.loadSend addr)
      if 0 < send.bufferSize then
        freeBlock send.buffer
      else
        pure ()
      p) t h Q := by
  have howner : h.heldIn b (addr :: addrs) (some addr) = s.buffer.map Block.ptr := by
    rw [Heap.heldIn, if_pos List.mem_cons_self, Heap.held, hs]
    rfl
  have hheld (l : BufferLedger) : Heap.heldIn ⟨l, h.cells⟩ b addrs =
      Function.update (h.heldIn b (addr :: addrs)) (some addr) none := by
    funext o
    cases o with
    | none => rfl
    | some a =>
      by_cases ha : a = addr
      · rw [ha, Function.update_self]
        exact if_neg hfresh
      · rw [Function.update_of_ne (by simpa using ha)]
        simp only [Heap.heldIn, List.mem_cons, ha, false_or]
        rfl
  refine must_request_bind fun v h₁ hload ↦ ?_
  obtain ⟨hallow, rfl⟩ := hload
  obtain ⟨mutex, rfl⟩ := hallow s hs
  have hsame : h.after (.loadSend addr) { s with mutex := mutex } = h := by
    have hstale : h.ledger.stale (s.buffer.map Block.ptr) = false := by
      cases hblock : s.buffer with
      | none => rfl
      | some block =>
        rw [hblock] at howner
        exact BufferLedger.stale_eq_false (hr.holds.mem howner)
    change Heap.mk (h.ledger.enter (.touched (s.buffer.map Block.ptr))) h.cells = h
    rw [BufferLedger.enter, hstale, Bool.or_false]
  rw [hsame]
  refine must_freeIfSized (hr.sent addr s hs) (fun hnone ↦ hp h rfl ?_) fun block hblock ↦
    hp _ rfl ?_
  · refine ⟨hr.unmisused, ?_, hr.received, hr.sent⟩
    rw [hnone] at howner
    have hkeep : Function.update (h.heldIn b (addr :: addrs)) (some addr) none =
        h.heldIn b (addr :: addrs) := Function.update_eq_self_iff.mpr howner.symm
    have hall := hheld h.ledger
    rw [hkeep] at hall
    rw [show h.heldIn b addrs = h.heldIn b (addr :: addrs) from hall]
    exact hr.holds
  · have hblock : s.buffer = some block := hblock
    rw [hblock] at howner
    refine ⟨unmisused_free hr.unmisused (hr.holds.mem howner), ?_, hr.received, hr.sent⟩
    exact (hheld _).symm ▸ hr.holds.give howner

/-! ### Descriptors -/

/-- Closing a descriptor leaves the object and the heap alone. -/
theorem must_closeInert {fd : Fd} {f : Unit → Proc τ α}
    (hf : ∀ t', t'.self = t.self → Must heapKernel (f ()) t' h Q) :
    Must heapKernel (closeIfOpen fd >>= f) t h Q :=
  must_bind (must_ite (fun _ ↦ must_inert_syscall rfl fun _ ↦
    must_pure (hf _ (Thread.note_self _ _)))
    fun _ ↦ must_pure (hf t rfl))

variable {P : τ → Heap → Prop}

/-- Adding an option keeps what is known of the heap. -/
theorem maintains_addOption (fd : Fd) :
    Maintains heapKernel (OnHeap P) (udtcpSocketAddOption fd O_NONBLOCK : Proc τ Int) := by
  unfold udtcpSocketAddOption
  refine (maintains_inert_syscall rfl).bind fun r ↦ ?_
  cases r with
  | error e => exact maintains_pure _
  | ok flags =>
    refine (maintains_inert_syscall rfl).bind fun r ↦ ?_
    cases r <;> exact maintains_pure _

/-- Binding a socket keeps what is known of the heap. -/
theorem maintains_bindSocket (fd : Fd) (addr : SockaddrIn) :
    Maintains heapKernel (OnHeap P) (bindSocket fd addr : Proc τ (Option SockaddrIn)) := by
  unfold bindSocket
  refine (maintains_inert_syscall rfl).bind fun r ↦ ?_
  cases r with
  | error e => exact maintains_pure _
  | ok u =>
    refine (maintains_inert_syscall rfl).bind fun r ↦ ?_
    cases r <;> exact maintains_pure _

end

end Udtcp
