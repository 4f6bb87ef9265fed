import Udtcp.Interaction.Contract
import Udtcp.Send.Structure

/-!
# What a send may do

The contract of one call of `udtcp_send_tcp` or `udtcp_send_udp`, `udtcp/src/send.c:33–103`: it
reads and writes its send structure between lock and unlock alone, leaves it in order, and hands
over nothing but the frame of its message, on its socket and to its address, once.
-/

namespace Udtcp

open Interaction Routine

/-- What a send hands over to the kernel, and where to if it says so. -/
structure Handed where
  fd : Fd
  bytes : List UInt8
  dest : Option SockaddrIn
  deriving DecidableEq, Repr

/-- What a call hands over, if anything. -/
def handedOf : Call → Option Handed
  | .sys (.send fd bytes) => some ⟨fd, bytes, none⟩
  | .sys (.sendto fd bytes dest) => some ⟨fd, bytes, some dest⟩
  | _ => none

/-- The frame of a message, with the socket and address of its record. -/
def Request.handed (q : Request) : Handed :=
  if q.udp then
    ⟨q.infos.udpServerSocket, Bytes.frame q.data.val, some q.infos.udpServerAddr⟩
  else
    ⟨q.infos.tcpSocket, Bytes.frame q.data.val, none⟩

/-- What is handed to the kernel is the frame of the message. -/
@[simp] theorem Request.handed_bytes (q : Request) : q.handed.bytes = Bytes.frame q.data.val := by
  unfold handed
  split <;> rfl

/-- The buffer of a send structure has room for the size in front of its messages. -/
def UdtcpSend.Roomy (s : UdtcpSend) : Prop := ∀ b, s.buffer = some b → s.bufferSize + 4 ≤ b.cap

/-- A structure without a buffer has room for nothing. -/
theorem UdtcpSend.roomy_zero : UdtcpSend.zero.Roomy := fun b hb ↦ by cases hb

/-- Where a send stands: the send structure while it holds the lock, and whether the kernel took
its frame. -/
structure Stance where
  cell : Option UdtcpSend
  taken : Bool

/-- The contract of one send: past the lock, nothing is done without it, only the buffer of its own
structure is freed, and what is handed over is what that buffer holds. While it holds the lock
nobody else writes to its send structure, and the kernel takes a buffer whole or not at all. -/
def sendContract (q : Request) : Contract posix Stance where
  Allows k
    | .mutexLock a => a = q.infos.send ∧ k.cell = none
    | .mutexUnlock a => a = q.infos.send ∧ ∃ s, k.cell = some s ∧ s.Laid
    | .loadSend a => a = q.infos.send ∧ k.cell ≠ none
    | .storeSend a s => a = q.infos.send ∧ k.cell ≠ none ∧ s.Roomy
    | .freeBuffer ptr => ∃ s b, k.cell = some s ∧ s.buffer = some b ∧ b.ptr = ptr
    | .sys (.newBuffer _) => k.cell ≠ none
    | .sys (.send fd bytes) => k.taken = false ∧ q.handed = ⟨fd, bytes, none⟩ ∧
        ∃ s, k.cell = some s ∧ s.Holds q.data.val
    | .sys (.sendto fd bytes dest) => k.taken = false ∧ q.handed = ⟨fd, bytes, some dest⟩ ∧
        ∃ s, k.cell = some s ∧ s.Holds q.data.val
    | _ => False
  Answers k
    | .mutexLock _, true, k' => ∃ s : UdtcpSend, s.Laid ∧ s.Roomy ∧ k' = { k with cell := some s }
    | .mutexUnlock _, _, k' => k' = { k with cell := none }
    | .loadSend _, s, k' => k.cell = some s ∧ k' = k
    | .storeSend _ s, _, k' => k' = { k with cell := some s }
    | .sys (.send _ bytes), .ok n, k' => n.val = bytes.length ∧ k' = { k with taken := true }
    | .sys (.sendto _ bytes _), .ok n, k' => n.val = bytes.length ∧ k' = { k with taken := true }
    | _, _, k' => k' = k

/-- Past the lock a send has its structure, and what it hands over is what is in its buffer. -/
theorem sendContract_allows {q : Request} {k : Stance} {c : Call}
    (h : (sendContract q).Allows k c) :
    c = .mutexLock q.infos.send ∨
      ∃ s, k.cell = some s ∧ ∀ d, handedOf c = some d → s.Holds q.data.val := by
  cases c with
  | mutexLock a => exact .inl (congrArg Call.mutexLock h.1)
  | mutexUnlock a =>
    obtain ⟨-, s, hs, -⟩ := h
    exact .inr ⟨s, hs, nofun⟩
  | loadSend a =>
    obtain ⟨s, hs⟩ := Option.ne_none_iff_exists'.mp h.2
    exact .inr ⟨s, hs, nofun⟩
  | storeSend a v =>
    obtain ⟨s, hs⟩ := Option.ne_none_iff_exists'.mp h.2.1
    exact .inr ⟨s, hs, nofun⟩
  | freeBuffer ptr =>
    obtain ⟨s, -, hs, -⟩ := h
    exact .inr ⟨s, hs, nofun⟩
  | sys c =>
    cases c with
    | newBuffer size =>
      obtain ⟨s, hs⟩ := Option.ne_none_iff_exists'.mp h
      exact .inr ⟨s, hs, nofun⟩
    | send fd bytes =>
      obtain ⟨-, -, s, hs, hholds⟩ := h
      exact .inr ⟨s, hs, fun _ _ ↦ hholds⟩
    | sendto fd bytes dest =>
      obtain ⟨-, -, s, hs, hholds⟩ := h
      exact .inr ⟨s, hs, fun _ _ ↦ hholds⟩
    | _ => exact h.elim
  | _ => exact h.elim

section

variable {K τ α : Type} {C : Contract posix K} {t : Thread τ} {k : K} {Q : α → Thread τ → K → Prop}

/-- Rule for a system call. -/
theorem safe_syscall_bind {c : SysCall} {f : Except Errno c.Result → Proc τ α}
    (hc : C.Allows k (.sys c))
    (h : ∀ r k', C.Answers k (.sys c) r k' → Safe C (f r) (t.note r) k' Q) :
    Safe C (syscall c >>= f) t k Q := ⟨hc, h⟩

/-- Rule for a call with a reply. -/
theorem safe_request_bind {c : Call} {f : c.Reply → Proc τ α} (hc : C.Allows k c)
    (h : ∀ r k', C.Answers k c r k' → Safe C (f r) t k' Q) :
    Safe C (request c >>= f) t k Q := ⟨hc, h⟩

/-- Rule for a call without a reply. -/
theorem safe_issue_bind {c : Call} {f : Unit → Proc τ α} (hc : C.Allows k c)
    (h : ∀ r k', C.Answers k c r k' → Safe C (f ()) t k' Q) : Safe C (issue c >>= f) t k Q :=
  ⟨hc, h⟩

end

section

variable {τ : Type} {t : Thread τ} {q : Request} {s : UdtcpSend}

-- The send holds the lock, with its structure in order and nothing handed over yet.
private def Working (s : UdtcpSend) (k : Stance) : Prop :=
  k = ⟨some s, false⟩ ∧ s.Laid ∧ s.Roomy

private theorem safe_growSend {n : Nat} {k : Stance} (hn : n + 4 < 2 ^ 32) (hk : Working s k) :
    Safe (sendContract q) (growSend q.infos.send n) t k fun ok _ k' ↦
      ∃ s', Working s' k' ∧ (ok = true → n ≤ s'.bufferSize) := by
  obtain ⟨rfl, hlaid, hroomy⟩ := hk
  refine safe_request_bind ⟨rfl, nofun⟩ ?_
  rintro v k₁ ⟨hv, rfl⟩
  obtain rfl := Option.some.inj hv
  refine safe_ite (fun _ ↦ safe_syscall_bind nofun fun r k₂ hr ↦ ?_) fun hlarge ↦ ?_
  · cases r with
    | error e =>
      obtain rfl : k₂ = _ := hr
      exact safe_pure ⟨s, ⟨rfl, hlaid, hroomy⟩, nofun⟩
    | ok block =>
      obtain rfl : k₂ = _ := hr
      have hcap : block.val.cap = n + 4 := block.property.trans (Nat.mod_eq_of_lt hn)
      have hroomy' : (s.grown block.val n).Roomy := by
        intro b hb
        obtain rfl := Option.some.inj hb
        exact Nat.le_of_eq hcap.symm
      have hstore : Safe (sendContract q) (do
          issue (.storeSend q.infos.send (s.grown block.val n))
          return true) t ⟨some s, false⟩ fun ok _ k' ↦
            ∃ s', Working s' k' ∧ (ok = true → n ≤ s'.bufferSize) := by
        refine safe_issue_bind ⟨rfl, nofun, hroomy'⟩ ?_
        rintro _ k₃ rfl
        exact safe_pure ⟨_, ⟨rfl, s.laid_grown _ _, hroomy'⟩, fun _ ↦ Nat.le_refl n⟩
      cases hold : s.buffer with
      | none => exact hstore
      | some old =>
        refine safe_issue_bind ⟨s, old, rfl, hold, rfl⟩ ?_
        rintro _ k₃ rfl
        exact hstore
  · exact safe_pure ⟨s, ⟨rfl, hlaid, hroomy⟩, fun _ ↦ Nat.le_of_not_lt hlarge⟩

private theorem safe_bufferCopy {k : Stance} (hpos : 0 < q.data.val.length)
    (hlen : q.data.val.length + 4 < 2 ^ 32) (hk : Working s k) :
    Safe (sendContract q) (bufferCopy q.infos.send q.data) t k fun n _ k' ↦
      ∃ s', Working s' k' ∧ (n = 0 → s'.Holds q.data.val) := by
  refine safe_bind ((safe_growSend hlen hk).mono ?_)
  rintro ok t₁ _ ⟨s₁, ⟨rfl, hlaid, hroomy⟩, hsize⟩
  refine safe_ite (fun hok ↦ safe_request_bind ⟨rfl, nofun⟩ ?_) fun _ ↦
    safe_pure ⟨s₁, ⟨rfl, hlaid, hroomy⟩, nofun⟩
  rintro v k₂ ⟨hv, rfl⟩
  obtain rfl := Option.some.inj hv
  obtain ⟨b, hb, hso, hpo⟩ := hlaid.ready (Nat.lt_of_lt_of_le hpos (hsize hok))
  rw [hb, hso, hpo]
  let written : UdtcpSend := { s₁ with
    buffer := some { b with
      mem := (b.mem.write 0 (Bytes.leBytes 4 q.data.val.length)).write 4 q.data.val }
    sizeOffset := some 0
    payloadOffset := some 4 }
  have hroomy' : written.Roomy := by
    intro b' hb'
    obtain rfl := Option.some.inj hb'
    exact hroomy b hb
  have hlaid' : written.Laid :=
    ⟨fun o ho ↦ (Option.some.inj ho).symm, fun o ho ↦ (Option.some.inj ho).symm,
      fun _ ↦ ⟨_, rfl, rfl, rfl⟩⟩
  refine safe_issue_bind ⟨rfl, nofun, hroomy'⟩ ?_
  rintro _ k₃ rfl
  exact safe_pure ⟨written, ⟨rfl, hlaid', hroomy'⟩,
    fun _ ↦ ⟨_, rfl, read_frame b.mem q.data.val⟩⟩

/-- A send that is over: it gave the lock back, and its result tells whether the frame was taken. -/
def Over (n : Int) (k : Stance) : Prop := k.cell = none ∧ (0 < n ↔ k.taken = true)

private theorem safe_sendWith {emit : List UInt8 → Proc τ Int} (hpos : 0 < q.data.val.length)
    (hlen : q.data.val.length + 4 < 2 ^ 32)
    (hemit : ∀ (t : Thread τ) s, s.Holds q.data.val →
      Safe (sendContract q) (emit (Bytes.frame q.data.val)) t ⟨some s, false⟩
        fun n _ k' ↦ k'.cell = some s ∧ (0 < n ↔ k'.taken = true)) :
    Safe (sendContract q) (sendWith q.infos.send q.data emit) t ⟨none, false⟩
      fun n _ k' ↦ Over n k' := by
  have hunlock {n : Int} {t : Thread τ} {s : UdtcpSend} {taken : Bool} (hlaid : s.Laid)
      (hn : 0 < n ↔ taken = true) : Safe (sendContract q) (do
        issue (.mutexUnlock q.infos.send)
        return n) t ⟨some s, taken⟩ fun n _ k' ↦ Over n k' := by
    refine safe_issue_bind ⟨rfl, s, rfl, hlaid⟩ ?_
    rintro _ k₁ rfl
    exact safe_pure ⟨rfl, hn⟩
  refine safe_request_bind ⟨rfl, rfl⟩ fun locked k₁ hlock ↦ ?_
  refine safe_ite (fun hlocked ↦ ?_) fun hlocked ↦ ?_
  · subst hlocked
    obtain ⟨s, hlaid, hroomy, rfl⟩ := hlock
    refine safe_bind ((safe_bufferCopy hpos hlen ⟨rfl, hlaid, hroomy⟩).mono ?_)
    rintro n t₁ _ ⟨s₁, ⟨rfl, hlaid₁, -⟩, hholds⟩
    refine safe_ite (fun _ ↦ hunlock hlaid₁ (by simp)) fun hzero ↦ ?_
    obtain ⟨b, hb, hread⟩ := hholds (not_not.mp hzero)
    refine safe_request_bind ⟨rfl, nofun⟩ ?_
    rintro v k₂ ⟨hv, rfl⟩
    obtain rfl := Option.some.inj hv
    simp only [hb, hread]
    refine safe_bind ((hemit t₁ s₁ ⟨b, hb, hread⟩).mono ?_)
    rintro ret t₂ ⟨_, taken⟩ ⟨rfl, hret⟩
    exact hunlock hlaid₁ hret
  · obtain rfl : locked = false := by simpa using hlocked
    obtain rfl : k₁ = _ := hlock
    exact safe_pure ⟨rfl, by simp⟩

/-- **A send keeps its contract**, whatever the answers, for messages whose frame a `uint32_t`
can measure. -/
theorem Request.safe_run (hpos : 0 < q.data.val.length) (hlen : q.data.val.length + 4 < 2 ^ 32) :
    Safe (sendContract q) (q.run : Proc τ Int) t ⟨none, false⟩ fun n _ k' ↦ Over n k' := by
  have hwhole {n : Nat} (hn : n = (Bytes.frame q.data.val).length) : 0 < (n : Int) := by
    rw [hn, Bytes.length_frame]
    omega
  unfold Request.run
  refine safe_ite (fun hudp ↦ ?_) fun htcp ↦ ?_
  · refine safe_sendWith hpos hlen fun t s hs ↦ ?_
    have hhanded : q.handed = ⟨q.infos.udpServerSocket, Bytes.frame q.data.val,
      some q.infos.udpServerAddr⟩ := if_pos hudp
    refine safe_syscall_bind ⟨rfl, hhanded, s, rfl, hs⟩ fun r k₁ hr ↦ ?_
    cases r with
    | error e =>
      obtain rfl : k₁ = _ := hr
      exact safe_pure ⟨rfl, by simp⟩
    | ok n =>
      obtain ⟨hn, rfl⟩ := hr
      exact safe_pure ⟨rfl, iff_of_true (hwhole hn) rfl⟩
  · refine safe_sendWith hpos hlen fun t s hs ↦ ?_
    have hhanded : q.handed = ⟨q.infos.tcpSocket, Bytes.frame q.data.val, none⟩ := if_neg htcp
    refine safe_syscall_bind ⟨rfl, hhanded, s, rfl, hs⟩ fun r k₁ hr ↦ ?_
    cases r with
    | error e =>
      obtain rfl : k₁ = _ := hr
      exact safe_pure ⟨rfl, by simp⟩
    | ok n =>
      obtain ⟨hn, rfl⟩ := hr
      exact safe_pure ⟨rfl, iff_of_true (hwhole hn) rfl⟩

end

end Udtcp
