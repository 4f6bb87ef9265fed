import Udtcp.Buffers.Ledger
import Udtcp.Receive.Reception
import Udtcp.Send.Structure

/-!
# Blocks and their owners

A live block belongs to the receive buffer or to one send structure, and both say by their sizes
whether they have one: a size is positive exactly if there is a block. Receptions and sends keep
this, whatever is announced and whatever the allocator answers.
-/

namespace Udtcp

open Interaction Routine

/-! ### Calls that leave the heap alone -/

section

variable {τ α : Type} {t : Thread τ} {h : Heap} {Q : α → Thread τ → Heap → Prop}

/-- What holds of the object and the heap, whatever `errno` is. -/
def OnHeap (P : τ → Heap → Prop) (t : Thread τ) (h : Heap) : Prop := P t.self h

/-- A routine all of whose calls leave the heap alone. -/
theorem must_inert {p : Proc τ α} (hp : Emits (fun e : Event posix ↦ e.call.inert = true) p)
    (hQ : ∀ tr a t', Exec p t tr a t' → Q a t' h) : Must heapKernel p t h Q := by
  intro tr a t' h' hrun ha
  have hsame : h' = h := ha.invariant (I := (· = h))
    (fun e he _ _ hk hstep ↦ (heapKernel_of_inert (hp t tr a t' hrun e he) hstep).trans hk) rfl
  rw [hsame]
  exact hQ tr a t' hrun

/-- Rule for a system call the heap does not see. -/
theorem must_inert_syscall {c : SysCall} {f : Except Errno c.Result → Proc τ α}
    (hc : (Call.sys c).inert = true) (hf : ∀ r, Must heapKernel (f r) (t.note r) h Q) :
    Must heapKernel (syscall c >>= f) t h Q :=
  must_syscall_bind fun r _ hk ↦ heapKernel_of_inert hc hk ▸ hf r

/-- Rule for a call with a reply the heap does not see. -/
theorem must_inert_request {c : Call} {f : c.Reply → Proc τ α} (hc : c.inert = true)
    (hf : ∀ r, Must heapKernel (f r) t h Q) : Must heapKernel (request c >>= f) t h Q :=
  must_request_bind fun r _ hk ↦ heapKernel_of_inert hc hk ▸ hf r

/-- Rule for a call without a reply the heap does not see. -/
theorem must_inert_issue {c : Call} {f : Unit → Proc τ α} (hc : c.inert = true)
    (hf : Must heapKernel (f ()) t h Q) : Must heapKernel (issue c >>= f) t h Q :=
  must_issue_bind fun _ _ hk ↦ heapKernel_of_inert hc hk ▸ hf

/-- A system call the heap does not see keeps what is known of it. -/
theorem maintains_inert_syscall {P : τ → Heap → Prop} {c : SysCall}
    (hc : (Call.sys c).inert = true) : Maintains heapKernel (OnHeap P) (syscall c : Proc τ _) :=
  maintains_syscall fun _ _ _ _ hI hk ↦ by
    rw [heapKernel_of_inert hc hk, OnHeap, Thread.note_self]
    exact hI

/-- So does a call with a reply. -/
theorem maintains_inert_request {P : τ → Heap → Prop} {c : Call} (hc : c.inert = true) :
    Maintains heapKernel (OnHeap P) (request c : Proc τ _) :=
  maintains_perform fun _ _ _ _ hI hk ↦ heapKernel_of_inert hc hk ▸ hI

/-- So does a call without a reply. -/
theorem maintains_inert_issue {P : τ → Heap → Prop} {c : Call} (hc : c.inert = true) :
    Maintains heapKernel (OnHeap P) (issue c : Proc τ Unit) :=
  maintains_issue fun _ _ _ _ hI hk ↦ heapKernel_of_inert hc hk ▸ hI

end

/-! ### The invariant -/

namespace Heap

/-- The block that belongs to the receive buffer, or to the send structure at an address. -/
def held (h : Heap) (b : ReceiveBuffer) : Option UInt64 → Option Nat
  | none => b.bufferData.map Block.ptr
  | some addr => (h.cells addr).bind fun s ↦ s.buffer.map Block.ptr

/-- Every live block has one owner, an owner has one exactly if its size is positive, and nothing
was misused. -/
structure Kept (h : Heap) (b : ReceiveBuffer) : Prop where
  unmisused : h.ledger.misused = false
  holds : Holds (h.held b) h.ledger.live
  received : b.bufferData.isSome ↔ 0 < b.bufferSize
  sent : ∀ addr s, h.cells addr = some s → (s.buffer.isSome ↔ 0 < s.bufferSize)

/-- The heap after a new block was handed out and the old one, if there was one, freed. -/
def renew (h : Heap) (old : Option Block) (new : Block) : Heap :=
  let l := h.ledger.enter (.granted new.ptr)
  ⟨old.elim l fun b ↦ l.enter (.freed b.ptr), h.cells⟩

variable {h : Heap} {b : ReceiveBuffer} {old : Option Block} {new : Block}

@[simp] private theorem cells_renew : (h.renew old new).cells = h.cells := rfl

@[simp] private theorem last_renew : (h.renew old new).ledger.last = h.ledger.last := by
  cases old <;> rfl

private theorem held_receive (hb : ReceiveBuffer) :
    (h.renew old new).held hb = Function.update (h.held b) none (hb.bufferData.map Block.ptr) := by
  funext o
  cases o <;> rfl

private theorem held_store (l : BufferLedger) (addr : UInt64) (s : UdtcpSend) :
    held ⟨l, Function.update h.cells addr (some s)⟩ b =
      Function.update (h.held b) (some addr) (s.buffer.map Block.ptr) := by
  funext o
  cases o with
  | none => rfl
  | some a =>
    change (Function.update h.cells addr (some s) a).bind _ = _
    by_cases ha : a = addr
    · rw [ha, Function.update_self, Function.update_self]
      rfl
    · rw [Function.update_of_ne ha, Function.update_of_ne (by simpa using ha)]
      rfl

/-- Its owner may hold the new block instead of the old one. -/
theorem Kept.renew (hk : h.Kept b) {o : Option UInt64} (ho : h.held b o = old.map Block.ptr)
    (hnew : new.ptr ∉ h.ledger.live) : (h.renew old new).ledger.misused = false ∧
      Holds (Function.update (h.held b) o (some new.ptr)) (h.renew old new).ledger.live := by
  cases old with
  | none => exact ⟨hk.unmisused, hk.holds.take ho hnew⟩
  | some block =>
    have hlive : block.ptr ∈ insert new.ptr h.ledger.live :=
      Finset.mem_insert_of_mem (hk.holds.mem ho)
    refine ⟨?_, hk.holds.exchange ho hnew⟩
    change (h.ledger.misused || _) = false
    rw [hk.unmisused, Bool.false_or]
    exact BufferLedger.stale_eq_false hlive

/-- What an owner holds is not stale. -/
theorem Kept.stale (hk : h.Kept b) {o : Option UInt64} {ptr : Option Nat}
    (ho : h.held b o = ptr) : h.ledger.stale ptr = false := by
  cases ptr with
  | none => rfl
  | some ptr => exact BufferLedger.stale_eq_false (hk.holds.mem ho)

/-- Before the first block: every structure that was stored was cleared. -/
theorem kept_of_zero (hledger : h.ledger = .empty)
    (hzero : ∀ addr s, h.cells addr = some s → s = .zero) : h.Kept .empty := by
  have hnone : h.held ReceiveBuffer.empty = fun _ ↦ none := by
    funext o
    cases o with
    | none => rfl
    | some addr =>
      rw [held]
      cases hs : h.cells addr with
      | none => rfl
      | some s =>
        rw [hzero addr s hs]
        rfl
  refine ⟨by rw [hledger]; rfl, ?_, by decide, fun addr s hs ↦ ?_⟩
  · rw [hnone, hledger]
    exact .empty
  · rw [hzero addr s hs]
    exact iff_of_false (by decide) (by decide)

end Heap

/-! ### Receptions -/

section

variable {cells : UInt64 → Option UdtcpSend} {t : Thread ReceiveBuffer} {h : Heap}

/-- The invariant while a receiver is at work, which does not touch the send structures. -/
def Receiving (cells : UInt64 → Option UdtcpSend) (b : ReceiveBuffer) (h : Heap) : Prop :=
  h.Kept b ∧ h.cells = cells

/-- The invariant once the buffer was received into. -/
def Filled (cells : UInt64 → Option UdtcpSend) (b : ReceiveBuffer) (h : Heap) : Prop :=
  Receiving cells b h ∧ h.ledger.last = b.bufferData.map Block.ptr

private theorem maintains_growBuffer (need : Nat) :
    Maintains heapKernel (OnHeap (Receiving cells)) (growBuffer need) := by
  rintro t h ⟨hk, hcells⟩
  unfold growBuffer
  refine must_self_bind (must_ite (fun hlt ↦ ?_) fun _ ↦ must_pure ⟨hk, hcells⟩)
  have hneed : 0 < need := Nat.zero_lt_of_lt hlt
  refine must_syscall_bind fun r h₁ hr ↦ ?_
  cases r with
  | error e =>
    obtain ⟨-, rfl⟩ := hr
    exact must_pure ⟨hk, hcells⟩
  | ok block =>
    obtain ⟨hnew, rfl⟩ := hr
    have hdone : Receiving cells ⟨some block.val, need⟩ (h.renew t.self.bufferData block.val) := by
      obtain ⟨hm, hholds⟩ := hk.renew (o := none) rfl hnew
      refine ⟨⟨hm, ?_, iff_of_true rfl hneed, hk.sent⟩, hcells⟩
      rw [Heap.held_receive]
      exact hholds
    refine must_self_bind ?_
    rw [Thread.note_ok]
    cases hold : t.self.bufferData with
    | none =>
      rw [hold] at hdone
      exact must_update_bind (must_pure hdone)
    | some old =>
      rw [hold] at hdone
      refine must_issue_bind fun _ h₂ hfree ↦ ?_
      obtain ⟨-, rfl⟩ := hfree
      exact must_update_bind (must_pure hdone)

private theorem Receiving.fill {b : ReceiveBuffer} (hI : Receiving cells b h) (offset : Nat)
    (bs : List UInt8) : Receiving cells (b.fill offset bs) h := by
  obtain ⟨hk, hcells⟩ := hI
  have hptr : (b.fill offset bs).bufferData.map Block.ptr = b.bufferData.map Block.ptr := by
    rw [ReceiveBuffer.fill]
    cases b.bufferData <;> rfl
  have hheld : h.held (b.fill offset bs) = h.held b := by
    funext o
    cases o with
    | none => exact hptr
    | some addr => rfl
  refine ⟨⟨hk.unmisused, hheld ▸ hk.holds, ?_, hk.sent⟩, hcells⟩
  rw [← Option.isSome_map (f := Block.ptr), hptr, Option.isSome_map]
  exact hk.received

private theorem Receiving.enter {b : ReceiveBuffer} (hI : Receiving cells b h) :
    Filled cells b ⟨h.ledger.enter (.filled (b.bufferData.map Block.ptr)), h.cells⟩ := by
  obtain ⟨hk, hcells⟩ := hI
  refine ⟨⟨⟨?_, hk.holds, hk.received, hk.sent⟩, hcells⟩, rfl⟩
  change (h.ledger.misused || _) = false
  rw [hk.unmisused, Bool.false_or]
  exact hk.stale (o := none) rfl

private theorem Filled.fill {b : ReceiveBuffer} (hI : Filled cells b h) (offset : Nat)
    (bs : List UInt8) : Filled cells (b.fill offset bs) h := by
  refine ⟨hI.1.fill offset bs, hI.2.trans ?_⟩
  rw [ReceiveBuffer.fill]
  cases b.bufferData <;> rfl

private theorem Filled.handed {b : ReceiveBuffer} (hI : Filled cells b h) :
    Filled cells b ⟨h.ledger.enter .handed, h.cells⟩ := by
  obtain ⟨⟨hk, hcells⟩, hlast⟩ := hI
  refine ⟨⟨⟨?_, hk.holds, hk.received, hk.sent⟩, hcells⟩, hlast⟩
  change (h.ledger.misused || h.ledger.stale h.ledger.last) = false
  rw [hk.unmisused, Bool.false_or, hlast]
  exact hk.stale (o := none) rfl

private theorem must_recvBuffer {fd : Fd} {offset len : Nat} (hI : Receiving cells t.self h) :
    Must heapKernel (recvBuffer fd offset len) t h fun _ ↦ OnHeap (Filled cells) := by
  unfold recvBuffer
  refine must_self_bind (must_syscall_bind fun r h₁ hr ↦ ?_)
  obtain ⟨-, rfl⟩ := hr
  cases r with
  | error e => exact must_pure hI.enter
  | ok bs => exact must_update_bind (must_pure (hI.enter.fill offset bs.val))

/-- Waiting for input keeps what is known of the heap. -/
theorem maintains_pollIn {τ : Type} {P : τ → Heap → Prop} (fd : Fd) :
    Maintains heapKernel (OnHeap P) (pollIn fd : Proc τ Int) :=
  (maintains_inert_syscall rfl).bind fun _ ↦ maintains_pure _

private theorem maintains_reassemble (fd : Fd) (dataSize rounds have₀ : Nat) :
    Maintains heapKernel (OnHeap (Filled cells)) (reassemble fd dataSize rounds have₀) := by
  induction rounds generalizing have₀ with
  | zero => exact maintains_pure _
  | succ rounds ih =>
    unfold reassemble
    refine .ite (maintains_pure _) ((maintains_pollIn fd).bind fun n ↦ .ite (maintains_pure _) ?_)
    refine Maintains.bind (fun _ _ hI ↦ must_recvBuffer hI.1) fun k ↦ ?_
    exact .ite (maintains_pure _) (.ite (maintains_pure _) (ih _))

private theorem maintains_deliver {cb : Callback}
    (hcb : bufferUseOf (.callback cb) () = some .handed) :
    Maintains heapKernel (OnHeap (Filled cells)) (issue (.callback cb) : Proc ReceiveBuffer Unit) :=
  maintains_issue fun _ h _ _ hI hk ↦ by
    obtain ⟨-, rfl⟩ := hk
    have hafter : h.after (.callback cb) () = ⟨h.ledger.enter .handed, h.cells⟩ := by
      rw [Heap.after, hcb]
      rfl
    exact hafter ▸ Filled.handed hI

/-- The TCP receiver keeps the owners. -/
theorem maintains_receiveTcpWith {fd : Fd} {deliver : Option (List UInt8 → Callback)}
    (hd : ∀ f, deliver = some f → ∀ data, bufferUseOf (.callback (f data)) () = some .handed)
    (success : Nat → Int) :
    Maintains heapKernel (OnHeap (Receiving cells)) (receiveTcpWith fd deliver success) := by
  unfold receiveTcpWith
  refine (maintains_inert_syscall rfl).bind fun size ↦ ?_
  cases size with
  | error e => exact maintains_pure _
  | ok size =>
    refine .ite (maintains_pure _) (.ite (maintains_pure _) ?_)
    refine (maintains_growBuffer _).bind fun ok ↦ .ite ?_ (maintains_pure _)
    unfold receivePayload
    intro t h hI
    refine must_bind ((must_recvBuffer hI).mono fun k t₁ h₁ hfilled ↦ ?_)
    have hstop (n : Int) {t₂ : Thread ReceiveBuffer} {h₂ : Heap} (hI : Filled cells t₂.self h₂) :
        Must heapKernel (pure n : Proc ReceiveBuffer Int) t₂ h₂ fun _ ↦ OnHeap (Receiving cells) :=
      must_pure hI.1
    refine must_ite (fun _ ↦ hstop _ hfilled) fun _ ↦ must_ite (fun _ ↦ hstop _ hfilled) fun _ ↦ ?_
    refine must_bind ((maintains_reassemble _ _ _ _ _ _ hfilled).mono fun r t₂ h₂ hfilled₂ ↦ ?_)
    cases r with
    | some r => exact hstop _ hfilled₂
    | none =>
      cases deliver with
      | none => exact hstop _ hfilled₂
      | some f =>
        refine must_self_bind (must_bind ?_)
        exact (maintains_deliver (hd f rfl _) _ _ hfilled₂).mono fun _ _ _ hI ↦ hstop _ hI

/-- The UDP receiver keeps the owners. -/
theorem maintains_receiveUdpWith {fd : Fd} {route : Route}
    (hd : ∀ addr f, route addr = some (some f) → ∀ data,
      bufferUseOf (.callback (f data)) () = some .handed) (success : Nat → Int) :
    Maintains heapKernel (OnHeap (Receiving cells)) (receiveUdpWith fd route success) := by
  unfold receiveUdpWith
  refine (maintains_inert_syscall rfl).bind fun size ↦ ?_
  cases size with
  | error e => exact maintains_pure _
  | ok size =>
    refine .ite (maintains_pure _) (.ite (maintains_pure _) ?_)
    refine (maintains_growBuffer _).bind fun ok ↦ .ite ?_ (maintains_pure _)
    unfold takeDatagram
    intro t h hI
    refine must_self_bind (must_syscall_bind fun r h₁ hr ↦ ?_)
    obtain ⟨-, rfl⟩ := hr
    have hstop (n : Int) {t₂ : Thread ReceiveBuffer} {h₂ : Heap} (hI : Filled cells t₂.self h₂) :
        Must heapKernel (pure n : Proc ReceiveBuffer Int) t₂ h₂ fun _ ↦ OnHeap (Receiving cells) :=
      must_pure hI.1
    cases r with
    | error e => exact hstop _ hI.enter
    | ok r =>
      have hfilled := hI.enter.fill 0 r.1.val
      refine must_update_bind (must_ite (fun _ ↦ hstop _ hfilled) fun _ ↦
        must_ite (fun _ ↦ hstop _ hfilled) fun _ ↦ must_ite (fun _ ↦ hstop _ hfilled) fun _ ↦ ?_)
      cases hroute : route r.2 with
      | none => exact hstop _ hfilled
      | some deliver =>
        cases deliver with
        | none => exact hstop _ hfilled
        | some f =>
          refine must_self_bind (must_bind ?_)
          have hcall (data : List UInt8) : Maintains heapKernel (OnHeap (Filled cells))
              (issue (.callback (f data)) : Proc ReceiveBuffer Unit) :=
            maintains_deliver (hd r.2 f hroute data)
          exact (hcall _ ⟨t.errno, _⟩ _ hfilled).mono fun _ _ _ hI ↦ hstop _ hI

end

/-! ### Sends -/

section

variable {τ α : Type} {b : ReceiveBuffer} {addr : UInt64} {cells : UInt64 → Option UdtcpSend}
  {t : Thread τ} {h : Heap} {s : UdtcpSend} {Q : α → Thread τ → Heap → Prop}

/-- The invariant of an object `x` while a send through the structure at `addr` is at work, which
touches no other structure. -/
structure SendUnderway (x : τ) (b : ReceiveBuffer) (addr : UInt64)
    (cells : UInt64 → Option UdtcpSend)
    (y : τ) (h : Heap) : Prop where
  self : y = x
  kept : h.Kept b
  stored : ∃ s, h.cells addr = some s
  other : ∀ a, a ≠ addr → h.cells a = cells a

/-- To use what an owner holds leaves the ledger as it is. -/
theorem Heap.Kept.touch (hk : h.Kept b) {o : Option UInt64} {ptr : Option Nat}
    (ho : h.held b o = ptr) : h.ledger.enter (.touched ptr) = h.ledger := by
  rw [BufferLedger.enter, hk.stale ho, Bool.or_false]

/-- The load of a structure that was stored. -/
theorem must_loadSend (hk : h.Kept b) (hs : h.cells addr = some s)
    {f : UdtcpSend → Proc τ α}
    (hf : ∀ mutex, Must heapKernel (f { s with mutex := mutex }) t h Q) :
    Must heapKernel (request (.loadSend addr) >>= f) t h Q := by
  refine must_request_bind fun v h₁ hr ↦ ?_
  obtain ⟨hload, rfl⟩ := hr
  obtain ⟨mutex, rfl⟩ := hload s hs
  have hsame : h.after (.loadSend addr) { s with mutex := mutex } = h := by
    have hheld : h.held b (some addr) = s.buffer.map Block.ptr := by rw [Heap.held, hs]; rfl
    change Heap.mk (h.ledger.enter (.touched (s.buffer.map Block.ptr))) h.cells = h
    rw [hk.touch hheld]
  rw [hsame]
  exact hf mutex

/-- A store to a structure that leaves it its block. -/
theorem Heap.Kept.rewrite (hk : h.Kept b) (hs : h.cells addr = some s) {v : UdtcpSend}
    (hptr : v.buffer.map Block.ptr = s.buffer.map Block.ptr) (hsize : v.bufferSize = s.bufferSize) :
    (h.after (.storeSend addr v) ()).Kept b ∧
      (h.after (.storeSend addr v) ()).cells = Function.update h.cells addr (some v) := by
  have hheld : h.held b (some addr) = v.buffer.map Block.ptr := by
    rw [Heap.held, hs, hptr]
    rfl
  have hafter : h.after (.storeSend addr v) () =
      ⟨h.ledger, Function.update h.cells addr (some v)⟩ := by
    change Heap.mk (h.ledger.enter (.touched (v.buffer.map Block.ptr))) _ = _
    rw [hk.touch hheld]
    rfl
  rw [hafter]
  refine ⟨⟨hk.unmisused, ?_, hk.received, fun a w hw ↦ ?_⟩, rfl⟩
  · rw [Heap.held_store, ← hheld, Function.update_eq_self]
    exact hk.holds
  · by_cases ha : a = addr
    · subst ha
      have hw : Function.update h.cells a (some v) a = some w := hw
      rw [Function.update_self] at hw
      obtain rfl := Option.some.inj hw
      rw [hsize, ← hk.sent a s hs, ← Option.isSome_map (f := Block.ptr), hptr, Option.isSome_map]
    · exact hk.sent a w (by rwa [← Function.update_of_ne ha (some v) h.cells])

private theorem Heap.Kept.grow (hk : h.Kept b) (hs : h.cells addr = some s) {new : Block}
    (hnew : new.ptr ∉ h.ledger.live) {v : UdtcpSend} (hv : v.buffer = some new)
    (hsize : 0 < v.bufferSize) :
    ((h.renew s.buffer new).after (.storeSend addr v) ()).Kept b ∧
      ((h.renew s.buffer new).after (.storeSend addr v) ()).cells =
        Function.update h.cells addr (some v) := by
  have hheld : h.held b (some addr) = s.buffer.map Block.ptr := by rw [Heap.held, hs]; rfl
  obtain ⟨hm, hholds⟩ := hk.renew hheld hnew
  have hlive : new.ptr ∈ (h.renew s.buffer new).ledger.live :=
    hholds.mem (Function.update_self (some addr) _ _)
  have hafter : (h.renew s.buffer new).after (.storeSend addr v) () =
      ⟨(h.renew s.buffer new).ledger, Function.update h.cells addr (some v)⟩ := by
    change Heap.mk ((h.renew s.buffer new).ledger.enter (.touched (v.buffer.map Block.ptr))) _ = _
    rw [hv, BufferLedger.enter]
    simp only [Option.map_some, BufferLedger.stale_eq_false hlive, Bool.or_false]
    rfl
  rw [hafter]
  refine ⟨⟨hm, ?_, hk.received, fun a w hw ↦ ?_⟩, rfl⟩
  · rw [Heap.held_store, hv]
    exact hholds
  · by_cases ha : a = addr
    · subst ha
      have hw : Function.update h.cells a (some v) a = some w := hw
      rw [Function.update_self] at hw
      obtain rfl := Option.some.inj hw
      rw [hv]
      exact iff_of_true rfl hsize
    · exact hk.sent a w (by rwa [← Function.update_of_ne ha (some v) h.cells])

variable {x : τ}

private theorem SendUnderway.store {y : τ} (hI : SendUnderway x b addr cells y h) {h' : Heap}
    {v : UdtcpSend} (hstore : h'.Kept b ∧ h'.cells = Function.update h.cells addr (some v)) :
    SendUnderway x b addr cells y h' := by
  refine ⟨hI.self, hstore.1, ⟨v, ?_⟩, fun a ha ↦ ?_⟩
  · rw [hstore.2, Function.update_self]
  · rw [hstore.2, Function.update_of_ne ha]
    exact hI.other a ha

private theorem maintains_growSend (dataSize : Nat) :
    Maintains heapKernel (OnHeap (SendUnderway x b addr cells)) (growSend addr dataSize) := by
  intro t h hI
  have hk := SendUnderway.kept hI
  obtain ⟨s, hs⟩ := SendUnderway.stored hI
  unfold growSend
  refine must_loadSend hk hs fun mutex ↦ must_ite (fun hlt ↦ ?_) fun _ ↦ must_pure hI
  refine must_syscall_bind fun r h₁ hr ↦ ?_
  cases r with
  | error e =>
    obtain ⟨-, rfl⟩ := hr
    exact must_pure hI
  | ok block =>
    obtain ⟨hnew, rfl⟩ := hr
    have hdone := hk.grow hs hnew (v := { s with
      mutex := mutex
      buffer := some block.val
      bufferSize := dataSize
      sizeOffset := some 0
      payloadOffset := some 4 }) rfl (Nat.zero_lt_of_lt hlt)
    have hsent := SendUnderway.store hI hdone
    cases hold : s.buffer with
    | none =>
      rw [hold] at hsent
      refine must_issue_bind fun _ h₂ hstore ↦ ?_
      obtain ⟨-, rfl⟩ := hstore
      exact must_pure hsent
    | some old =>
      rw [hold] at hsent
      refine must_issue_bind fun _ h₂ hfree ↦ must_issue_bind fun _ h₃ hstore ↦ ?_
      obtain ⟨-, rfl⟩ := hfree
      obtain ⟨-, rfl⟩ := hstore
      exact must_pure hsent

private theorem maintains_bufferCopy (data : Payload) :
    Maintains heapKernel (OnHeap (SendUnderway x b addr cells)) (bufferCopy addr data) := by
  unfold bufferCopy
  refine (maintains_growSend _).bind fun ok ↦ .ite ?_ (maintains_pure _)
  intro t h hI
  have hk := SendUnderway.kept hI
  obtain ⟨s, hs⟩ := SendUnderway.stored hI
  refine must_loadSend hk hs fun mutex ↦ ?_
  dsimp only
  split
  · next block sizeOffset payloadOffset hblock _ _ =>
    refine must_issue_bind fun _ h₁ hstore ↦ ?_
    obtain ⟨-, rfl⟩ := hstore
    refine must_pure (SendUnderway.store hI (hk.rewrite hs ?_ rfl))
    rw [hblock]
    rfl
  · exact must_crash

/-- A send keeps the owners. -/
theorem maintains_sendWith (data : Payload) {emit : List UInt8 → Proc τ Int}
    (hemit : ∀ bytes, Maintains heapKernel (OnHeap (SendUnderway x b addr cells)) (emit bytes)) :
    Maintains heapKernel (OnHeap (SendUnderway x b addr cells)) (sendWith addr data emit) := by
  unfold sendWith
  refine (maintains_inert_request rfl).bind fun ok ↦ .ite ?_ (maintains_pure _)
  refine (maintains_bufferCopy data).bind fun n ↦
    .ite ((maintains_inert_issue rfl).bind fun _ ↦ maintains_pure _) ?_
  intro t h hI
  have hk := SendUnderway.kept hI
  obtain ⟨s, hs⟩ := SendUnderway.stored hI
  refine must_loadSend hk hs fun mutex ↦ ?_
  exact ((hemit _).bind fun ret ↦ (maintains_inert_issue rfl).bind fun _ ↦ maintains_pure _) t h hI

/-- A message sent by TCP or by UDP keeps the owners. -/
theorem maintains_request (q : Request) (hq : q.infos.send = addr) :
    Maintains heapKernel (OnHeap (SendUnderway x b addr cells)) (q.run : Proc τ Int) := by
  subst hq
  unfold Request.run
  refine .ite (maintains_sendWith _ fun bytes ↦ ?_) (maintains_sendWith _ fun bytes ↦ ?_)
  · refine (maintains_inert_syscall rfl).bind fun r ↦ ?_
    cases r <;> exact maintains_pure _
  · refine (maintains_inert_syscall rfl).bind fun r ↦ ?_
    cases r <;> exact maintains_pure _

end

end Udtcp
