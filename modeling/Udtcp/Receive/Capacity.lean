import Udtcp.Posix.Observe
import Udtcp.Receive.Cases
import Udtcp.Receive.Roles
import Udtcp.Server.Create

/-!
# Capacity of the receive buffer

`buffer_size` against the bytes really allocated, over any sequence of TCP and UDP
receptions. The TCP receiver asks for the announced size; the UDP receiver asks for four
more in 64 bits, which `udtcp_new_buffer` takes modulo `2 ^ 32`.
-/

namespace Udtcp

open Interaction Routine

/-- A reception that stays inside the buffer it writes to. -/
def InBounds : Call → Prop
  | .sys (.recv _ (.buffer _ cap offset) len) => offset + len ≤ cap
  | .sys (.recvfrom _ (.buffer _ cap offset) len _) => offset + len ≤ cap
  | _ => True

namespace ReceiveBuffer

/-- `buffer_size` is backed by allocated memory. -/
def Backed (b : ReceiveBuffer) : Prop := b.bufferSize ≤ b.allocated

/-- A buffer that claims a size has a block. -/
def Present (b : ReceiveBuffer) : Prop := 0 < b.bufferSize → b.bufferData.isSome

/-- A buffer of no size needs no block. -/
theorem Backed.empty : Backed .empty := Nat.le_refl 0

/-- A backed buffer that claims a size has a block. -/
theorem Backed.present {b : ReceiveBuffer} (h : b.Backed) : b.Present := by
  intro hpos
  unfold Backed allocated at h
  cases hb : b.bufferData with
  | none =>
    rw [hb] at h
    exact absurd hpos (Nat.not_lt.mpr h)
  | some block => rfl

/-- The same block with the same size, whatever it holds. -/
structure SameBlock (b b' : ReceiveBuffer) : Prop where
  bufferSize : b'.bufferSize = b.bufferSize
  ptr : b'.bufferData.map Block.ptr = b.bufferData.map Block.ptr
  cap : b'.allocated = b.allocated

/-- A buffer has its own block. -/
theorem SameBlock.refl (b : ReceiveBuffer) : SameBlock b b := ⟨rfl, rfl, rfl⟩

/-- The block is kept step by step. -/
theorem SameBlock.trans {b b' b'' : ReceiveBuffer} (h : SameBlock b b') (h' : SameBlock b' b'') :
    SameBlock b b'' :=
  ⟨h'.bufferSize.trans h.bufferSize, h'.ptr.trans h.ptr, h'.cap.trans h.cap⟩

/-- The same block is written to at the same place. -/
theorem SameBlock.target {b b' : ReceiveBuffer} (h : SameBlock b b') (offset : Nat) :
    b'.target offset = b.target offset := by
  rw [ReceiveBuffer.target, ReceiveBuffer.target, h.ptr, h.cap]

/-- A buffer with the same block is as large. -/
theorem SameBlock.backed {b b' : ReceiveBuffer} (h : SameBlock b b') : b'.Backed ↔ b.Backed := by
  rw [Backed, Backed, h.bufferSize, h.cap]

/-- And as present. -/
theorem SameBlock.present {b b' : ReceiveBuffer} (h : SameBlock b b') :
    b'.Present ↔ b.Present := by
  have hptr := congrArg Option.isSome h.ptr
  rw [Option.isSome_map, Option.isSome_map] at hptr
  rw [Present, Present, h.bufferSize, hptr]

/-- Filling a buffer keeps its block. -/
theorem sameBlock_fill (b : ReceiveBuffer) (offset : Nat) (bs : List UInt8) :
    SameBlock b (b.fill offset bs) := by
  cases hb : b.bufferData <;> constructor <;> simp [fill, allocated, hb]

end ReceiveBuffer

section

variable {t t' : Thread ReceiveBuffer} {tr : Trace posix} {fd : Fd} {dataSize : Nat}

/-- What a call of the payload half is: a wait, a callback, or a reception into the part of the
buffer that belongs to the message. -/
def PayloadCall (b : ReceiveBuffer) (dataSize : Nat) (e : Event posix) : Prop :=
  (∃ fds timeout, e.call = .sys (.poll fds timeout)) ∨ (∃ c, e.call = .callback c) ∨
    ∃ fd offset len, offset + len ≤ dataSize ∧ e.call = .sys (.recv fd (b.target offset) len)

private theorem PayloadCall.inBounds {b : ReceiveBuffer} {e : Event posix}
    (h : PayloadCall b dataSize e)
    (hb : dataSize ≤ b.allocated) : InBounds e.call := by
  rcases h with ⟨_, _, h⟩ | ⟨_, h⟩ | ⟨_, offset, len, hle, h⟩
  all_goals rw [h]
  · trivial
  · trivial
  · exact Nat.le_trans hle hb

/-- A call for a payload is no failed allocation. -/
theorem PayloadCall.succeeds {b : ReceiveBuffer} {e : Event posix}
    (h : PayloadCall b dataSize e) : ¬ AllocationFailed e := by
  obtain ⟨c, r⟩ := e
  rcases h with ⟨_, _, h⟩ | ⟨_, h⟩ | ⟨_, _, _, _, h⟩ <;> (subst h; simp [AllocationFailed])

private theorem recvBuffer_calls {offset len : Nat} {n : Int}
    (h : Exec (recvBuffer fd offset len) t tr n t') (hle : offset + len ≤ dataSize) :
    t.self.SameBlock t'.self ∧ n ≤ len ∧ ∀ e ∈ tr, PayloadCall t.self dataSize e := by
  rcases exec_recvBuffer.mp h with ⟨e, rfl, rfl, rfl⟩ | ⟨bs, rfl, rfl, rfl⟩
  · refine ⟨.refl _, by omega, fun e he ↦ ?_⟩
    rw [List.mem_singleton.mp he]
    exact .inr (.inr ⟨fd, offset, len, hle, rfl⟩)
  · have hbs := bs.property
    refine ⟨ReceiveBuffer.sameBlock_fill _ _ _, by omega, fun e he ↦ ?_⟩
    rw [List.mem_singleton.mp he]
    exact .inr (.inr ⟨fd, offset, len, hle, rfl⟩)

private theorem reassemble_calls {rounds have₀ : Nat} {r : Option Int}
    (h : Exec (reassemble fd dataSize rounds have₀) t tr r t') (hle : have₀ ≤ dataSize) :
    t.self.SameBlock t'.self ∧ ∀ e ∈ tr, PayloadCall t.self dataSize e := by
  induction rounds generalizing t tr have₀ with
  | zero =>
    obtain ⟨rfl, -, rfl⟩ := exec_pure.mp h
    exact ⟨.refl _, by simp⟩
  | succ rounds ih =>
    by_cases hd : have₀ = dataSize
    · subst hd
      obtain ⟨rfl, -, rfl⟩ := exec_reassemble_done.mp h
      exact ⟨.refl _, by simp⟩
    · obtain ⟨reply, rest, rfl, hrest⟩ := (exec_reassemble hd).mp h
      have hpoll : PayloadCall t.self dataSize
          ⟨.sys (.poll [⟨fd, POLLIN, 0⟩] (-1)), reply⟩ := .inl ⟨_, _, rfl⟩
      rcases hrest with ⟨-, rfl, -, rfl⟩ | ⟨-, tr₁, n, t₁, tr₂, rfl, hrecv, hrest⟩
      · rw [Thread.note_self]
        exact ⟨.refl _, by simpa using hpoll⟩
      · obtain ⟨hsame, hn, hcalls⟩ := recvBuffer_calls hrecv
          (show have₀ + (dataSize - have₀) ≤ dataSize
          by omega)
        rw [Thread.note_self] at hsame hcalls
        have hboth (tr₂ : Trace posix) (h₂ : ∀ e ∈ tr₂, PayloadCall t.self dataSize e) :
            ∀ e ∈ (⟨.sys (.poll [⟨fd, POLLIN, 0⟩] (-1)), reply⟩ :: (tr₁ ++ tr₂) : Trace posix),
              PayloadCall t.self dataSize e := by
          intro e he
          rcases List.mem_cons.mp he with rfl | he
          · exact hpoll
          rcases List.mem_append.mp he with he | he
          · exact hcalls e he
          · exact h₂ e he
        rcases hrest with ⟨-, rfl, -, rfl⟩ | ⟨-, rfl, -, rfl⟩ | ⟨hpos, hloop⟩
        · exact ⟨hsame, hboth [] (by simp)⟩
        · exact ⟨hsame, hboth [] (by simp)⟩
        · obtain ⟨hsame', hcalls'⟩ := ih hloop (by omega)
          refine ⟨hsame.trans hsame', hboth tr₂ fun e he ↦ ?_⟩
          rcases hcalls' e he with h | h | ⟨fd', offset, len, hle', h⟩
          · exact .inl h
          · exact .inr (.inl h)
          · rw [hsame.target] at h
            exact .inr (.inr ⟨fd', offset, len, hle', h⟩)

/-- The payload half keeps the block and writes only to the part of it that belongs to the
message. -/
theorem receivePayload_calls {deliver : Option (List UInt8 → Callback)} {success : Nat → Int}
    {n : Int} (h : Exec (receivePayload fd deliver success dataSize) t tr n t') :
    t.self.SameBlock t'.self ∧ ∀ e ∈ tr, PayloadCall t.self dataSize e := by
  obtain ⟨tr₁, k, t₁, rest, rfl, hk, hrest⟩ := exec_receivePayload h
  obtain ⟨hsame, hle, hcalls⟩ := recvBuffer_calls hk (show 0 + dataSize ≤ dataSize by omega)
  rcases hrest with ⟨-, rfl, -, rfl⟩ | ⟨hpos, tr₂, r, t₂, tr₃, rfl, hloop, rfl, hend⟩
  · rw [List.append_nil]
    exact ⟨hsame, hcalls⟩
  · obtain ⟨hsame', hcalls'⟩ := reassemble_calls hloop (by omega)
    refine ⟨hsame.trans hsame', fun e he ↦ ?_⟩
    rcases List.mem_append.mp he with he | he
    · exact hcalls e he
    rcases List.mem_append.mp he with he | he
    · rcases hcalls' e he with h | h | ⟨fd', offset, len, hle', h⟩
      · exact .inl h
      · exact .inr (.inl h)
      · rw [hsame.target] at h
        exact .inr (.inr ⟨fd', offset, len, hle', h⟩)
    · rcases hend with ⟨-, rfl⟩ | ⟨-, -, hdel⟩
      · cases he
      · unfold delivery at hdel
        split at hdel
        · obtain ⟨u, rfl⟩ := hdel
          rw [List.mem_singleton.mp he]
          exact .inr (.inl ⟨_, rfl⟩)
        · rw [hdel] at he
          cases he

/-- A datagram that announces a size from `2 ^ 32 - 4` on, and an allocation that succeeds. -/
def OversizeGranted (tr : Trace posix) : Prop :=
  ∃ fd bs addr, (⟨.sys (.recvfrom fd .word 4 true), .ok (bs, addr)⟩ : Event posix) ∈ tr ∧
    bs.val.length = 4 ∧ 2 ^ 32 - 4 ≤ Bytes.leNat bs.val ∧
    ∃ size block, (⟨.sys (.newBuffer size), .ok block⟩ : Event posix) ∈ tr

/-- What a reception may do to a buffer: the block is backed and every call stays inside it. -/
def Contained (tr : Trace posix) (b : ReceiveBuffer) : Prop :=
  b.Backed ∧ ∀ e ∈ tr, InBounds e.call

private theorem growBuffer_room {need : Nat} (h : Exec (growBuffer need) t tr true t')
    (hb : t.self.Backed) (hlt : need < 2 ^ 32) :
    t'.self.Backed ∧ need ≤ t'.self.allocated ∧ ∀ e ∈ tr, InBounds e.call := by
  rcases exec_growBuffer.mp h with ⟨hle, rfl, -, rfl⟩ | ⟨-, _, -, hok, -⟩ | ⟨-, block, rfl, -, rfl⟩
  · exact ⟨hb, Nat.le_trans hle hb, by simp⟩
  · cases hok
  · have hcap : block.val.cap = need := by rw [block.property, Nat.mod_eq_of_lt hlt]
    have hall : (⟨some block.val, need⟩ : ReceiveBuffer).allocated = need := hcap
    refine ⟨Nat.le_of_eq hall.symm, Nat.le_of_eq hall.symm, fun e he ↦ ?_⟩
    rcases List.mem_cons.mp he with rfl | he
    · trivial
    · obtain ⟨_, _, rfl⟩ := ReceiveBuffer.mem_release he
      trivial

private theorem growBuffer_refused {need : Nat} (h : Exec (growBuffer need) t tr false t') :
    t'.self = t.self ∧ (∀ e ∈ tr, InBounds e.call) ∧ ¬ AllocationsSucceed tr := by
  rcases exec_growBuffer.mp h with ⟨-, -, hok, -⟩ | ⟨-, e, rfl, -, rfl⟩ | ⟨-, _, -, hok, -⟩
  · cases hok
  · exact ⟨rfl, by simp [InBounds], by simp [AllocationFailed]⟩
  · cases hok

private theorem growBuffer_present {need : Nat} {ok : Bool}
    (h : Exec (growBuffer need) t tr ok t') (hb : t.self.Present) : t'.self.Present := by
  rcases exec_growBuffer.mp h with ⟨-, -, -, rfl⟩ | ⟨-, _, -, -, rfl⟩ | ⟨-, block, -, -, rfl⟩
  · exact hb
  · exact hb
  · exact fun _ ↦ rfl

private theorem growBuffer_succeeds {need : Nat} (h : Exec (growBuffer need) t tr true t') :
    AllocationsSucceed tr := by
  rcases exec_growBuffer.mp h with ⟨-, rfl, -, -⟩ | ⟨-, _, -, hok, -⟩ | ⟨-, block, rfl, -, -⟩
  · simp
  · cases hok
  · have hrel : AllocationsSucceed t.self.release := by
      intro e he
      obtain ⟨_, _, rfl⟩ := ReceiveBuffer.mem_release he
      simp [AllocationFailed]
    simp [AllocationFailed, hrel]

private theorem growBuffer_calls {need : Nat} {ok : Bool}
    (h : Exec (growBuffer need) t tr ok t') (e : Event posix) (he : e ∈ tr) :
    (∃ size, e.call = .sys (.newBuffer size)) ∨ ∃ ptr, e.call = .freeBuffer ptr := by
  rcases exec_growBuffer.mp h with ⟨-, rfl, -, -⟩ | ⟨-, _, rfl, -, -⟩ | ⟨-, block, rfl, -, -⟩
  · cases he
  · rw [List.mem_singleton.mp he]
    exact .inl ⟨_, rfl⟩
  · rcases List.mem_cons.mp he with rfl | he
    · exact .inl ⟨_, rfl⟩
    · obtain ⟨_, _, rfl⟩ := ReceiveBuffer.mem_release he
      exact .inr ⟨_, rfl⟩

/-- **TCP receptions** keep the buffer backed and stay inside it; a failed allocation changes
nothing. -/
theorem receiveTcpWith_contained {deliver : Option (List UInt8 → Callback)} {success : Nat → Int}
    {n : Int} (h : Exec (receiveTcpWith fd deliver success) t tr n t') (hb : t.self.Backed) :
    Contained tr t'.self ∧ ¬ OversizeGranted tr := by
  obtain ⟨size, rest, rfl, hcases⟩ := exec_receiveTcpWith h
  have hpeek (hrest : ∀ e ∈ rest, ∀ fd, e.call ≠ .sys (.recvfrom fd .word 4 true)) :
      ¬ OversizeGranted (⟨.sys (.recv fd .word 4), size⟩ :: rest) := by
    rintro ⟨fd', bs, addr, hmem, -⟩
    rcases List.mem_cons.mp hmem with he | he
    · cases congrArg Event.call he
    · exact hrest _ he fd' rfl
  have hcons (hrest : ∀ e ∈ rest, InBounds e.call) :
      ∀ e ∈ (⟨.sys (.recv fd .word 4), size⟩ :: rest : Trace posix), InBounds e.call := by
    intro e he
    rcases List.mem_cons.mp he with rfl | he
    · trivial
    · exact hrest e he
  rcases hcases with ⟨e, -, rfl, -, rfl⟩ | ⟨bs, -, -, rfl, -, rfl⟩ | ⟨bs, -, -, hg, -⟩ |
    ⟨bs, tr₁, t₁, tr₂, -, hlen, rfl, hg, hp⟩
  · exact ⟨⟨hb, hcons (by simp)⟩, hpeek (by simp)⟩
  · exact ⟨⟨hb, hcons (by simp)⟩, hpeek (by simp)⟩
  · obtain ⟨hself, hin, -⟩ := growBuffer_refused hg
    refine ⟨⟨hself ▸ hb, hcons hin⟩, hpeek fun e he fd' hcall ↦ ?_⟩
    rcases growBuffer_calls hg e he with ⟨_, hc⟩ | ⟨_, hc⟩ <;> (rw [hc] at hcall; cases hcall)
  · have hlt : Bytes.leNat bs.val < 2 ^ 32 := by
      have := Bytes.leNat_lt bs.val
      rwa [hlen] at this
    obtain ⟨hb₁, hroom, hin⟩ := growBuffer_room hg hb hlt
    obtain ⟨hsame, hcalls⟩ := receivePayload_calls hp
    refine ⟨⟨hsame.backed.mpr hb₁, hcons fun e he ↦ ?_⟩, hpeek fun e he fd' hcall ↦ ?_⟩
    · rcases List.mem_append.mp he with he | he
      · exact hin e he
      · exact (hcalls e he).inBounds hroom
    · rcases List.mem_append.mp he with he | he
      · rcases growBuffer_calls hg e he with ⟨_, hc⟩ | ⟨_, hc⟩ <;> (rw [hc] at hcall; cases hcall)
      · rcases hcalls e he with ⟨_, _, hc⟩ | ⟨_, hc⟩ | ⟨_, _, _, _, hc⟩ <;>
          (rw [hc] at hcall; cases hcall)

/-- A reception of a datagram peeks once, and first. -/
theorem receiveUdpWith_peeks_once {route : Route} {success : Nat → Int} {n : Int}
    (h : Exec (receiveUdpWith fd route success) t tr n t') :
    ∃ size rest, tr = ⟨.sys (.recvfrom fd .word 4 true), size⟩ :: rest ∧
      ∀ e ∈ rest, ∀ fd', e.call ≠ .sys (.recvfrom fd' .word 4 true) := by
  obtain ⟨size, rest, rfl, hcases⟩ := exec_receiveUdpWith h
  have hgrown {need : Nat} {ok : Bool} {t t' : Thread ReceiveBuffer} {tr : Trace posix}
      (hg : Exec (growBuffer need) t tr ok t') (e : Event posix) (he : e ∈ tr) (fd' : Fd) :
      e.call ≠ .sys (.recvfrom fd' .word 4 true) := by
    intro hcall
    rcases growBuffer_calls hg e he with ⟨_, hc⟩ | ⟨_, hc⟩
    · cases hc.symm.trans hcall
    · cases hc.symm.trans hcall
  refine ⟨size, rest, rfl, fun e he fd' ↦ ?_⟩
  rcases hcases with ⟨_, -, rfl, -⟩ | ⟨_, _, -, -, rfl, -⟩ | ⟨_, _, -, -, hg, -⟩ |
    ⟨_, _, tr₁, _, tr₂, -, -, rfl, hg, ht⟩
  · cases he
  · cases he
  · exact hgrown hg e he fd'
  · rcases List.mem_append.mp he with he | he
    · exact hgrown hg e he fd'
    · obtain ⟨r, rest, rfl, hcallbacks, -⟩ := exec_takeDatagram ht
      rcases List.mem_cons.mp he with rfl | he
      · exact fun hcall ↦ by cases hcall
      · obtain ⟨c, u, rfl⟩ := hcallbacks e he
        exact fun hcall ↦ by cases hcall

/-- **UDP receptions** do so exactly when they are not granted a buffer for a size that does not
fit with its four bytes into 32 bits. -/
theorem receiveUdpWith_contained_iff {route : Route} {success : Nat → Int} {n : Int}
    (h : Exec (receiveUdpWith fd route success) t tr n t') (hb : t.self.Backed) :
    Contained tr t'.self ↔ ¬ OversizeGranted tr := by
  obtain ⟨size, rest, rfl, hcases⟩ := exec_receiveUdpWith h
  have hcons (hrest : ∀ e ∈ rest, InBounds e.call) :
      ∀ e ∈ (⟨.sys (.recvfrom fd .word 4 true), size⟩ :: rest : Trace posix), InBounds e.call := by
    intro e he
    rcases List.mem_cons.mp he with rfl | he
    · trivial
    · exact hrest e he
  rcases hcases with ⟨e, rfl, rfl, -, rfl⟩ | ⟨bs, addr, rfl, hlen, rfl, -, rfl⟩ |
    ⟨bs, addr, rfl, hlen, hg, -⟩ | ⟨bs, addr, tr₁, t₁, tr₂, rfl, hlen, rfl, hg, ht⟩
  · refine iff_of_true ⟨hb, hcons (by simp)⟩ ?_
    rintro ⟨_, _, _, hmem, -⟩
    cases List.mem_singleton.mp hmem
  · refine iff_of_true ⟨hb, hcons (by simp)⟩ ?_
    rintro ⟨_, _, _, hmem, hlen', -⟩
    cases List.mem_singleton.mp hmem
    exact hlen hlen'
  · obtain ⟨hself, hin, hfail⟩ := growBuffer_refused hg
    refine iff_of_true ⟨hself ▸ hb, hcons hin⟩ ?_
    rintro ⟨_, _, _, -, -, -, n, block, hmem⟩
    rcases exec_growBuffer.mp hg with ⟨-, -, hok, -⟩ | ⟨-, e, rfl, -, -⟩ | ⟨-, _, -, hok, -⟩
    · cases hok
    · simp only [List.mem_cons, List.not_mem_nil, or_false] at hmem
      rcases hmem with he | he <;> cases he
    · cases hok
  · obtain ⟨r, rest, rfl, hcall, htake⟩ := exec_takeDatagram ht
    have hsame : t₁.self.SameBlock t'.self := by
      rcases htake with ⟨_, -, -, -, rfl⟩ | ⟨_, _, -, rfl⟩
      · exact .refl _
      · exact ReceiveBuffer.sameBlock_fill _ _ _
    -- the part behind the growth: one reception, then callbacks
    have hrest (e : Event posix) (he : e ∈ rest) : ∃ c, e.call = .callback c := by
      obtain ⟨c, u, rfl⟩ := hcall e he
      exact ⟨c, rfl⟩
    have hcontained (hb₁ : t₁.self.Backed) (hroom : 4 + Bytes.leNat bs.val ≤ t₁.self.allocated)
        (hin : ∀ e ∈ tr₁, InBounds e.call) : Contained (⟨.sys (.recvfrom fd .word 4 true),
          .ok (bs, addr)⟩ :: (tr₁ ++ ⟨.sys (.recvfrom fd (t₁.self.target 0)
          (4 + Bytes.leNat bs.val) false), r⟩ :: rest)) t'.self := by
      refine ⟨hsame.backed.mpr hb₁, hcons fun e he ↦ ?_⟩
      rcases List.mem_append.mp he with he | he
      · exact hin e he
      rcases List.mem_cons.mp he with rfl | he
      · change 0 + (4 + Bytes.leNat bs.val) ≤ t₁.self.allocated
        omega
      · obtain ⟨c, hc⟩ := hrest e he
        rw [hc]
        trivial
    by_cases hsize : Bytes.leNat bs.val < 2 ^ 32 - 4
    · obtain ⟨hb₁, hroom, hin⟩ := growBuffer_room hg hb (by omega)
      refine iff_of_true (hcontained hb₁ hroom hin) ?_
      rintro ⟨fd', bs', addr', hmem, -, hge, -⟩
      rcases List.mem_cons.mp hmem with he | he
      · cases he
        omega
      rcases List.mem_append.mp he with he | he
      · rcases growBuffer_calls hg _ he with ⟨_, hc⟩ | ⟨_, hc⟩ <;> cases hc
      rcases List.mem_cons.mp he with he | he
      · cases congrArg Event.call he
      · obtain ⟨c, hc⟩ := hrest _ he
        cases hc
    · rcases exec_growBuffer.mp hg with ⟨hle, rfl, -, rfl⟩ | ⟨-, _, -, hok, -⟩ |
        ⟨-, block, rfl, -, rfl⟩
      · refine iff_of_true (hcontained hb (Nat.le_trans hle hb) (by simp)) ?_
        rintro ⟨_, _, _, -, -, -, n, block, hmem⟩
        rw [List.nil_append] at hmem
        rcases List.mem_cons.mp hmem with he | he
        · cases congrArg Event.call he
        rcases List.mem_cons.mp he with he | he
        · cases congrArg Event.call he
        · obtain ⟨c, hc⟩ := hrest _ he
          cases hc
      · cases hok
      · refine iff_of_false (fun hc ↦ ?_) (not_not_intro ?_)
        · -- the block holds the size modulo `2 ^ 32`, the buffer claims all of it
          have hback : 4 + Bytes.leNat bs.val ≤ block.val.cap := hsame.backed.mp hc.1
          have hcap := block.property
          have hmod := Nat.mod_lt (4 + Bytes.leNat bs.val) (show 0 < 2 ^ 32 by decide)
          omega
        · exact ⟨fd, bs, addr, by simp, hlen, by omega, _, block, by simp⟩

/-- A failed allocation changes nothing. -/
theorem receiveTcpWith_refused {deliver : Option (List UInt8 → Callback)} {success : Nat → Int}
    {n : Int} (h : Exec (receiveTcpWith fd deliver success) t tr n t')
    (hf : ¬ AllocationsSucceed tr) : t'.self = t.self := by
  obtain ⟨size, rest, rfl, hcases⟩ := exec_receiveTcpWith h
  have hhead : ¬ AllocationFailed ⟨.sys (.recv fd .word 4), size⟩ := by
    cases size <;> simp [AllocationFailed]
  rcases hcases with ⟨e, -, -, -, rfl⟩ | ⟨bs, -, -, -, -, rfl⟩ | ⟨bs, -, -, hg, -⟩ |
    ⟨bs, tr₁, t₁, tr₂, -, hlen, rfl, hg, hp⟩
  · rfl
  · rfl
  · exact (growBuffer_refused hg).1
  · apply absurd _ hf
    have h₂ : AllocationsSucceed tr₂ := fun e he ↦ ((receivePayload_calls hp).2 e he).succeeds
    simp [hhead, growBuffer_succeeds hg, h₂]

private theorem receiveUdpWith_refused {route : Route} {success : Nat → Int}
    {n : Int} (h : Exec (receiveUdpWith fd route success) t tr n t')
    (hf : ¬ AllocationsSucceed tr) : t'.self = t.self := by
  obtain ⟨size, rest, rfl, hcases⟩ := exec_receiveUdpWith h
  have hhead : ¬ AllocationFailed ⟨.sys (.recvfrom fd .word 4 true), size⟩ := by
    cases size <;> simp [AllocationFailed]
  rcases hcases with ⟨e, -, -, -, rfl⟩ | ⟨bs, addr, -, -, -, -, rfl⟩ | ⟨bs, addr, -, -, hg, -⟩ |
    ⟨bs, addr, tr₁, t₁, tr₂, -, hlen, rfl, hg, ht⟩
  · rfl
  · rfl
  · exact (growBuffer_refused hg).1
  · apply absurd _ hf
    obtain ⟨r, rest, rfl, hcall, -⟩ := exec_takeDatagram ht
    have hr : ¬ AllocationFailed ⟨.sys (.recvfrom fd (t₁.self.target 0)
        (4 + Bytes.leNat bs.val) false), r⟩ := by
      cases r <;> simp [AllocationFailed]
    have hrest : AllocationsSucceed rest := by
      intro e he
      obtain ⟨c, u, rfl⟩ := hcall e he
      simp [AllocationFailed]
    simp [hhead, growBuffer_succeeds hg, hr, hrest]

end

/-- One reception by a server or a client, seen from its buffer. -/
inductive BufferStep : ReceiveBuffer → Trace posix → ReceiveBuffer → Prop
  | serverTcp {m : Nat} {t t' : Thread (UdtcpServer m)} {slot tr n}
    (h : Exec (receiveTcp slot) t tr n t') : BufferStep t.self.buffer tr t'.self.buffer
  | serverUdp {m : Nat} {t t' : Thread (UdtcpServer m)} {tr n}
    (h : Exec receiveUdp t tr n t') : BufferStep t.self.buffer tr t'.self.buffer
  | clientTcp {t t' : Thread UdtcpClient} {tr n}
    (h : Exec Client.receiveTcp t tr n t') : BufferStep t.self.buffer tr t'.self.buffer
  | clientUdp {t t' : Thread UdtcpClient} {tr n}
    (h : Exec Client.receiveUdp t tr n t') : BufferStep t.self.buffer tr t'.self.buffer

/-- A sequence of receptions, each with its trace and the buffer it leaves. What else happens to
the server or the client in between is left open. -/
def BufferRun : ReceiveBuffer → List (Trace posix × ReceiveBuffer) → Prop
  | _, [] => True
  | b, (tr, b') :: run => BufferStep b tr b' ∧ BufferRun b' run

/-- The buffers receptions can leave behind. -/
inductive ReceiveBuffer.Reached : ReceiveBuffer → Prop
  | empty : Reached .empty
  | step {b b' : ReceiveBuffer} {tr : Trace posix} (hb : Reached b) (h : BufferStep b tr b') :
    Reached b'

/-- Every reception is one of the two receivers on the buffer. -/
theorem BufferStep.receiver {b b' : ReceiveBuffer} {tr : Trace posix} (h : BufferStep b tr b') :
    ∃ e u n fd, u.self = b' ∧
      ((∃ deliver success, Exec (receiveTcpWith fd deliver success) ⟨e, b⟩ tr n u) ∨
      (∃ route success, Exec (receiveUdpWith fd route success) ⟨e, b⟩ tr n u)) := by
  cases h with
  | serverTcp h =>
    obtain ⟨u, hu, rfl⟩ := exec_receiveTcp.mp h
    exact ⟨_, u, _, _, rfl, .inl ⟨_, _, hu⟩⟩
  | serverUdp h =>
    obtain ⟨u, hu, rfl⟩ := exec_receiveUdp.mp h
    exact ⟨_, u, _, _, rfl, .inr ⟨_, _, hu⟩⟩
  | clientTcp h =>
    obtain ⟨u, hu, rfl⟩ := Client.exec_receiveTcp.mp h
    exact ⟨_, u, _, _, rfl, .inl ⟨_, _, hu⟩⟩
  | clientUdp h =>
    obtain ⟨u, hu, rfl⟩ := Client.exec_receiveUdp.mp h
    exact ⟨_, u, _, _, rfl, .inr ⟨_, _, hu⟩⟩

/-- **One reception**, from a backed buffer. -/
theorem BufferStep.contained_iff {b b' : ReceiveBuffer} {tr : Trace posix}
    (h : BufferStep b tr b') (hb : b.Backed) : Contained tr b' ↔ ¬ OversizeGranted tr := by
  obtain ⟨e, u, n, fd, rfl, ⟨_, _, h⟩ | ⟨_, _, h⟩⟩ := h.receiver
  · obtain ⟨hc, ho⟩ := receiveTcpWith_contained h hb
    exact iff_of_true hc ho
  · exact receiveUdpWith_contained_iff h hb

/-- A step with a failed allocation leaves the buffer alone. -/
theorem BufferStep.refused {b b' : ReceiveBuffer} {tr : Trace posix} (h : BufferStep b tr b')
    (hf : ¬ AllocationsSucceed tr) : b' = b := by
  obtain ⟨e, u, n, fd, rfl, ⟨_, _, h⟩ | ⟨_, _, h⟩⟩ := h.receiver
  · exact receiveTcpWith_refused h hf
  · exact receiveUdpWith_refused h hf

/-- A reception leaves no claimed size without a block. -/
theorem BufferStep.present {b b' : ReceiveBuffer} {tr : Trace posix} (h : BufferStep b tr b')
    (hb : b.Present) : b'.Present := by
  obtain ⟨e, u, n, fd, rfl, ⟨_, _, h⟩ | ⟨_, _, h⟩⟩ := h.receiver
  · obtain ⟨size, rest, rfl, ⟨e, -, -, -, rfl⟩ | ⟨bs, -, -, -, -, rfl⟩ | ⟨bs, -, -, hg, -⟩ |
      ⟨bs, tr₁, t₁, tr₂, -, -, -, hg, hp⟩⟩ := exec_receiveTcpWith h
    · exact hb
    · exact hb
    · exact growBuffer_present hg hb
    · exact (receivePayload_calls hp).1.present.mpr (growBuffer_present hg hb)
  · obtain ⟨size, rest, rfl, ⟨e, -, -, -, rfl⟩ | ⟨bs, _, -, -, -, -, rfl⟩ | ⟨bs, _, -, -, hg, -⟩ |
      ⟨bs, _, tr₁, t₁, tr₂, -, -, -, hg, ht⟩⟩ := exec_receiveUdpWith h
    · exact hb
    · exact hb
    · exact growBuffer_present hg hb
    · have hb₁ := growBuffer_present hg hb
      obtain ⟨_, _, -, -, ⟨_, -, -, -, rfl⟩ | ⟨_, _, -, rfl⟩⟩ := exec_takeDatagram ht
      · exact hb₁
      · exact (ReceiveBuffer.sameBlock_fill _ _ _).present.mpr hb₁

/-- A buffer that receptions left is there once it has a size. -/
theorem ReceiveBuffer.Reached.present {b : ReceiveBuffer} (h : b.Reached) : b.Present := by
  induction h with
  | empty => exact fun h ↦ absurd h (by simp [ReceiveBuffer.empty])
  | step _ hs ih => exact hs.present ih

/-- **Runs**, from a backed buffer. -/
theorem BufferRun.contained_iff {b : ReceiveBuffer} {run : List (Trace posix × ReceiveBuffer)}
    (h : BufferRun b run) (hb : b.Backed) :
    (∀ x ∈ run, Contained x.1 x.2) ↔ ∀ x ∈ run, ¬ OversizeGranted x.1 := by
  induction run generalizing b with
  | nil => simp
  | cons x run ih =>
    obtain ⟨hstep, hrun⟩ := h
    have hx := hstep.contained_iff hb
    rw [List.forall_mem_cons, List.forall_mem_cons]
    constructor
    · rintro ⟨hc, hrest⟩
      exact ⟨hx.mp hc, (ih hrun hc.1).mp hrest⟩
    · rintro ⟨ho, hrest⟩
      have hc := hx.mpr ho
      exact ⟨hc, (ih hrun hc.1).mpr hrest⟩

/-- **Capacity of the receive buffer.** Over every sequence of receptions from the empty buffer,
`buffer_size` stays within what is allocated and every reception stays inside the block exactly
when no datagram announcing `2 ^ 32 - 4` bytes or more is granted a buffer. A failed allocation
always leaves the buffer as it is. -/
theorem receive_buffer_capacity_iff {run : List (Trace posix × ReceiveBuffer)}
    (h : BufferRun .empty run) :
    ((∀ x ∈ run, x.2.bufferSize ≤ x.2.allocated ∧ ∀ e ∈ x.1, InBounds e.call) ↔
      ∀ x ∈ run, ¬ OversizeGranted x.1) ∧
    (∀ b tr b', BufferStep b tr b' → ¬ AllocationsSucceed tr → b' = b) :=
  ⟨h.contained_iff (Nat.le_refl 0), fun _ _ _ hs hf ↦ hs.refused hf⟩

/-- The calls of a server that takes a datagram of four bytes announcing `2 ^ 32 - 4`: the
allocator is asked for nothing, and the reception for `2 ^ 32` bytes. -/
def oversizeReception : Trace posix :=
  [⟨.sys (.recvfrom 4 .word 4 true), .ok (⟨[252, 255, 255, 255], by simp⟩, .zero)⟩,
   ⟨.sys (.newBuffer 0), .ok ⟨⟨9, 0, fun _ ↦ 0⟩, rfl⟩⟩,
   ⟨.sys (.recvfrom 4 (.buffer (some 9) 0 0) (2 ^ 32) false),
     .ok (⟨[252, 255, 255, 255], by simp⟩, .zero)⟩]

/-- After it, `buffer_size` is `2 ^ 32` and nothing is allocated. -/
theorem receive_buffer_overcommitted :
    ∃ b, BufferRun .empty [(oversizeReception, b)] ∧ b.bufferSize = 2 ^ 32 ∧ b.allocated = 0 ∧
      ¬ ∀ e ∈ oversizeReception, InBounds e.call := by
  have hrun : ∃ t', Exec (receiveUdp (m := 1)) ⟨.other 0, .listening 3 4⟩ oversizeReception (-1)
      t' ∧ t'.self.buffer.bufferSize = 2 ^ 32 ∧ t'.self.buffer.allocated = 0 :=
    ⟨_, ⟨_, _, rfl, _, _, rfl, _, _, rfl, rfl, rfl⟩, rfl, rfl⟩
  obtain ⟨t', h, hsize, hall⟩ := hrun
  refine ⟨t'.self.buffer, ⟨.serverUdp h, trivial⟩, hsize, hall, ?_⟩
  intro hin
  have hle : 0 + 2 ^ 32 ≤ 0 :=
    hin _ (List.mem_cons_of_mem _ (List.mem_cons_of_mem _ (List.mem_singleton_self _)))
  omega

/-- The calls of a server that takes a datagram with a message of one byte. -/
def smallReception : Trace posix :=
  [⟨.sys (.recvfrom 4 .word 4 true), .ok (allOf [1, 0, 0, 0], .zero)⟩,
   ⟨.sys (.newBuffer 5), .ok (Block.fresh 9 5)⟩,
   ⟨.sys (.recvfrom 4 (.buffer (some 9) 5 0) 5 false), .ok (allOf [1, 0, 0, 0, 7], .zero)⟩]

/-- It stays within the buffer. -/
theorem receive_buffer_backed_small :
    ∃ b, BufferRun .empty [(smallReception, b)] ∧ b.bufferSize ≤ b.allocated := by
  have hrun : ∃ t', Exec (receiveUdp (m := 1)) ⟨.other 0, .listening 3 4⟩ smallReception (-1) t' :=
    ⟨_, _, _, rfl, _, _, rfl, _, _, rfl, rfl, rfl⟩
  obtain ⟨t', h⟩ := hrun
  have hb : BufferRun .empty [(smallReception, t'.self.buffer)] := ⟨.serverUdp h, trivial⟩
  refine ⟨_, hb, ?_⟩
  refine ((receive_buffer_capacity_iff hb).1.mpr ?_ _ (List.mem_singleton_self _)).1
  rintro x hx ⟨fd, bs, addr, hmem, -, hge, -⟩
  rw [List.mem_singleton.mp hx] at hmem
  simp only [smallReception, List.mem_cons, List.not_mem_nil, or_false] at hmem
  rcases hmem with he | he | he
  · cases he
    exact absurd hge (by decide)
  · cases congrArg Event.call he
  · cases congrArg Event.call he

end Udtcp
