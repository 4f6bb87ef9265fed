import Udtcp.Posix.Observe
import Udtcp.Send.Send

/-!
# The send structure between calls

A send structure is a cell of memory that only sends write to (`sendKernel`). Its two
offset pointers keep their places, so every send hands the frame of its message to the
kernel, whatever was sent through the structure before.
-/

namespace Udtcp

open Interaction Routine

/-- The cell of the send structure at `addr`: loads report it, stores replace it. Nothing is
said about other calls. -/
def sendKernel (addr : UInt64) : Kernel posix UdtcpSend := fun s c r s' ↦
  match sendAccessOf c r with
  | some (.load a v) => if a = addr then v = s ∧ s' = s else s' = s
  | some (.store a v) => if a = addr then s' = v else s' = s
  | none => s' = s

/-- The two offset pointers stand where `buffer_copy` puts them, and a structure that claims a
size has a buffer. -/
structure UdtcpSend.Laid (s : UdtcpSend) : Prop where
  sizeOffset : ∀ o, s.sizeOffset = some o → o = 0
  payloadOffset : ∀ o, s.payloadOffset = some o → o = 4
  ready : 0 < s.bufferSize →
    ∃ b, s.buffer = some b ∧ s.sizeOffset = some 0 ∧ s.payloadOffset = some 4

/-- A message to be sent through a record, by TCP or by UDP. -/
structure Request where
  infos : UdtcpInfos
  udp : Bool
  data : Payload

/-- Send one message. -/
def Request.run {τ : Type} (q : Request) : Proc τ Int :=
  if q.udp then udtcpSendUdp q.infos q.data else udtcpSendTcp q.infos q.data

/-- Send messages one after the other and collect the results. -/
def sendAll {τ : Type} : List Request → Proc τ (List Int)
  | [] => pure []
  | q :: qs => do
    let r ← q.run
    let rs ← sendAll qs
    return r :: rs

/-- A structure without a buffer is laid out. -/
theorem UdtcpSend.laid_zero : UdtcpSend.zero.Laid :=
  ⟨by simp [zero], by simp [zero], by simp [zero]⟩

/-- A larger buffer, laid out for `dataSize` bytes. -/
def UdtcpSend.grown (s : UdtcpSend) (block : Block) (dataSize : Nat) : UdtcpSend :=
  { s with buffer := some block, bufferSize := dataSize, sizeOffset := some 0,
           payloadOffset := some 4 }

/-- So is one that was grown. -/
theorem UdtcpSend.laid_grown (s : UdtcpSend) (block : Block) (n : Nat) : (s.grown block n).Laid :=
  ⟨by simp [grown], by simp [grown], fun _ ↦ ⟨block, rfl, rfl, rfl⟩⟩

/-- Calls that are not about a send structure leave it as it is. -/
theorem sendKernel_accepts_of_quiet {addr : UInt64} {s s' : UdtcpSend} {tr : Trace posix}
    (h : (sendKernel addr).Accepts s tr s')
    (hq : ∀ e ∈ tr, sendAccessOf e.call e.reply = none) : s' = s := by
  apply h.invariant (I := fun k ↦ k = s) _ rfl
  intro e he k₁ k₂ hk hs
  rw [sendKernel, hq e he] at hs
  exact hs.trans hk

section

variable {τ : Type} {t t' : Thread τ} {tr : Trace posix} {addr : UInt64} {s s' : UdtcpSend}

/-- A load reports the structure. -/
@[simp] theorem sendKernel_load {v : UdtcpSend} :
    sendKernel addr s (.loadSend addr) v s' ↔ v = s ∧ s' = s := by
  simp [sendKernel, sendAccessOf]

/-- A store replaces it. -/
@[simp] theorem sendKernel_store {v : UdtcpSend} {u : Unit} :
    sendKernel addr s (.storeSend addr v) u s' ↔ s' = v := by
  simp [sendKernel, sendAccessOf]

/-- A run of the `send` of a message. -/
theorem exec_emitTcp {fd : Fd} {bytes : List UInt8} {n : Int} :
    Exec (emitTcp fd bytes) t tr n t' ↔ ∃ r, tr = [⟨.sys (.send fd bytes), r⟩] ∧
      n = (match r with | .error _ => -1 | .ok k => (k.val : Int)) ∧ t' = t.note r := by
  simp only [emitTcp, exec_syscall_bind]
  constructor
  · rintro ⟨r, rest, rfl, h⟩
    cases r <;> (obtain ⟨rfl, rfl, rfl⟩ := exec_pure.mp h; exact ⟨_, rfl, rfl, rfl⟩)
  · rintro ⟨r, rfl, rfl, rfl⟩
    cases r <;> exact ⟨_, [], rfl, exec_pure.mpr ⟨rfl, rfl, rfl⟩⟩

/-- A run of the `sendto` of a message. -/
theorem exec_emitUdp {fd : Fd} {dest : SockaddrIn} {bytes : List UInt8} {n : Int} :
    Exec (emitUdp fd dest bytes) t tr n t' ↔ ∃ r, tr = [⟨.sys (.sendto fd bytes dest), r⟩] ∧
      n = (match r with | .error _ => -1 | .ok k => (k.val : Int)) ∧ t' = t.note r := by
  simp only [emitUdp, exec_syscall_bind]
  constructor
  · rintro ⟨r, rest, rfl, h⟩
    cases r <;> (obtain ⟨rfl, rfl, rfl⟩ := exec_pure.mp h; exact ⟨_, rfl, rfl, rfl⟩)
  · rintro ⟨r, rfl, rfl, rfl⟩
    cases r <;> exact ⟨_, [], rfl, exec_pure.mpr ⟨rfl, rfl, rfl⟩⟩

/-- Growing either leaves the structure alone, or lays out a new block. -/
theorem exec_growSend {dataSize : Nat} {ok : Bool}
    (h : Exec (growSend addr dataSize) t tr ok t') (ha : (sendKernel addr).Accepts s tr s') :
    (∀ e ∈ tr, writeOf e.call e.reply = none) ∧
      ((dataSize ≤ s.bufferSize ∧ ok = true ∧ s' = s ∧ AllocationsSucceed tr) ∨
      (s.bufferSize < dataSize ∧ ok = false ∧ s' = s ∧ ¬ AllocationsSucceed tr) ∨
      (s.bufferSize < dataSize ∧ ok = true ∧ AllocationsSucceed tr ∧
        ∃ block : Block, block.cap = (dataSize + 4) % 2 ^ 32 ∧ s' = s.grown block dataSize)) := by
  unfold growSend at h
  obtain ⟨v, rest, rfl, hbody⟩ := exec_request_bind.mp h
  obtain ⟨s₁, hv, ha⟩ := ha
  obtain ⟨hv, hs₁⟩ : v = s ∧ s₁ = s := sendKernel_load.mp hv
  subst hv hs₁
  rw [exec_ite] at hbody
  split at hbody
  · next hlt =>
    obtain ⟨r, rest, rfl, hgrow⟩ := exec_syscall_bind.mp hbody
    obtain ⟨s₂, hs, ha⟩ := ha
    have hs₂ : s₂ = s₁ := hs
    rw [hs₂] at ha
    cases r with
    | error e =>
      obtain ⟨rfl, rfl, rfl⟩ := exec_pure.mp hgrow
      have hs' : s' = s₁ := ha
      refine ⟨by simp [writeOf], .inr (.inl ⟨hlt, rfl, hs', ?_⟩)⟩
      simp [AllocationFailed]
    | ok block =>
      have hstore : ∃ pre u, rest = pre ++ [⟨.storeSend addr (s₁.grown block.val dataSize), u⟩] ∧
          (∀ e ∈ pre, ∃ ptr u, e = ⟨.freeBuffer ptr, u⟩) ∧ ok = true := by
        cases hb : s₁.buffer with
        | none =>
          simp only [hb, exec_issue_bind, exec_pure] at hgrow
          obtain ⟨u, _, rfl, rfl, rfl, -⟩ := hgrow
          exact ⟨[], u, rfl, by simp, rfl⟩
        | some old =>
          simp only [hb, exec_issue_bind, exec_pure] at hgrow
          obtain ⟨u, _, rfl, u', _, rfl, rfl, rfl, -⟩ := hgrow
          refine ⟨[⟨.freeBuffer old.ptr, u⟩], u', rfl, ?_, rfl⟩
          intro e he
          exact ⟨_, _, List.mem_singleton.mp he⟩
      obtain ⟨pre, u, rfl, hpre, rfl⟩ := hstore
      obtain ⟨s₃, ha₁, s₄, hs₄, ha₂⟩ := (Kernel.accepts_append _).mp ha
      have hs' : s' = s₁.grown block.val dataSize :=
        (show s' = s₄ from ha₂).trans (sendKernel_store.mp hs₄)
      refine ⟨?_, .inr (.inr ⟨hlt, rfl, ?_, block.val, block.property, hs'⟩)⟩
      · intro e he
        simp only [List.mem_cons, List.mem_append, List.not_mem_nil, or_false] at he
        rcases he with rfl | rfl | he | rfl
        · rfl
        · rfl
        · obtain ⟨_, _, rfl⟩ := hpre e he
          rfl
        · rfl
      · have hfree : AllocationsSucceed pre := by
          intro e he
          obtain ⟨_, _, rfl⟩ := hpre e he
          simp [AllocationFailed]
        simp [AllocationFailed, hfree]
  · next hge =>
    obtain ⟨rfl, rfl, rfl⟩ := exec_pure.mp hbody
    have hs' : s' = s₁ := ha
    refine ⟨by simp [writeOf], .inl ⟨by omega, rfl, hs', ?_⟩⟩
    simp [AllocationFailed]

/-- The buffer holds the frame of `data`, ready to be handed over. -/
def UdtcpSend.Holds (s : UdtcpSend) (data : List UInt8) : Prop :=
  ∃ b, s.buffer = some b ∧ b.mem.read 0 (data.length + 4) = Bytes.frame data

/-- Size and message, written at their places, make up the frame. -/
theorem read_frame (m : Memory) (data : List UInt8) :
    ((m.write 0 (Bytes.leBytes 4 data.length)).write 4 data).read 0 (data.length + 4) =
      Bytes.frame data := by
  rw [Nat.add_comm, Memory.read_write_append, Bytes.frame]
  congr 1

/-- **`buffer_copy`.** It leaves the frame of the message in the buffer, or fails with its
allocation and leaves the structure alone. -/
theorem exec_bufferCopy {data : Payload} {n : Int} (h : Exec (bufferCopy addr data) t tr n t')
    (ha : (sendKernel addr).Accepts s tr s') (hs : s.Laid) :
    (∀ e ∈ tr, writeOf e.call e.reply = none) ∧ s'.Laid ∧
      ((n = 0 ∧ AllocationsSucceed tr ∧ s'.Holds data.val) ∨
      (n = -1 ∧ ¬ AllocationsSucceed tr ∧ s' = s)) := by
  unfold bufferCopy at h
  obtain ⟨tr₁, ok, t₁, tr₂, rfl, hg, hbody⟩ := exec_bind.mp h
  obtain ⟨s₁, ha₁, ha₂⟩ := (Kernel.accepts_append _).mp ha
  obtain ⟨hq, hgrow⟩ := exec_growSend hg ha₁
  cases ok with
  | false =>
    obtain ⟨rfl, rfl, -⟩ := exec_pure.mp hbody
    have hs₁ : s' = s₁ := ha₂
    subst hs₁
    rcases hgrow with ⟨-, hok, -⟩ | ⟨-, -, rfl, hfail⟩ | ⟨-, hok, -⟩
    · cases hok
    · exact ⟨by simpa using hq, hs, .inr ⟨rfl, by simpa using hfail, rfl⟩⟩
    · cases hok
  | true =>
    obtain ⟨hlaid, hal⟩ : s₁.Laid ∧ AllocationsSucceed tr₁ := by
      rcases hgrow with ⟨-, -, rfl, hal⟩ | ⟨-, hok, -⟩ | ⟨-, -, hal, block, -, rfl⟩
      · exact ⟨hs, hal⟩
      · cases hok
      · exact ⟨UdtcpSend.laid_grown _ _ _, hal⟩
    rw [if_pos rfl, exec_request_bind] at hbody
    obtain ⟨v, rest, rfl, hwrite⟩ := hbody
    obtain ⟨s₂, hv, ha₂⟩ := ha₂
    obtain ⟨hv, hs₂⟩ : v = s₁ ∧ s₂ = s₁ := sendKernel_load.mp hv
    subst hv hs₂
    split at hwrite
    · next b so po hb hso hpo =>
      obtain ⟨u, rest, rfl, hret⟩ := exec_issue_bind.mp hwrite
      obtain ⟨rfl, rfl, -⟩ := exec_pure.mp hret
      obtain ⟨s₃, hs₃, ha₂⟩ := ha₂
      have hs' := (show s' = s₃ from ha₂).trans (sendKernel_store.mp hs₃)
      rw [hlaid.sizeOffset so hso, hlaid.payloadOffset po hpo] at hs'
      refine ⟨?_, ?_, .inl ⟨rfl, ?_, ?_⟩⟩
      · intro e he
        simp only [List.mem_cons, List.mem_append, List.not_mem_nil, or_false] at he
        rcases he with he | rfl | rfl
        · exact hq e he
        · rfl
        · rfl
      · rw [hs']
        refine ⟨hlaid.sizeOffset, hlaid.payloadOffset, fun hpos ↦ ?_⟩
        obtain ⟨_, _, h₁, h₂⟩ := hlaid.ready hpos
        exact ⟨_, rfl, h₁, h₂⟩
      · simp [hal, AllocationFailed]
      · rw [hs']
        exact ⟨_, rfl, read_frame b.mem data.val⟩
    · exact (exec_crash hwrite).elim

/-- **One send.** Either nothing is handed over and the result is `0`, or exactly the frame of
the message is. -/
theorem exec_sendWith {data : Payload} {emit : List UInt8 → Proc τ Int} {n : Int}
    (h : Exec (sendWith addr data emit) t tr n t') (ha : (sendKernel addr).Accepts s tr s')
    (hs : s.Laid)
    (hemit : ∀ {t tr n t' s s'}, Exec (emit (Bytes.frame data.val)) t tr n t' →
      (sendKernel addr).Accepts s tr s' → s' = s) :
    s'.Laid ∧
      ((n = 0 ∧ ∀ e ∈ tr, writeOf e.call e.reply = none) ∨
      ∃ pre t₁ mid t₂ u, tr = pre ++ (mid ++ [⟨.mutexUnlock addr, u⟩]) ∧
        (∀ e ∈ pre, writeOf e.call e.reply = none) ∧
        Exec (emit (Bytes.frame data.val)) t₁ mid n t₂) := by
  unfold sendWith at h
  obtain ⟨locked, rest, rfl, hbody⟩ := exec_request_bind.mp h
  obtain ⟨s₁, hlock, ha⟩ := ha
  have hs₁ : s₁ = s := hlock
  subst hs₁
  cases locked with
  | false =>
    obtain ⟨rfl, rfl, rfl⟩ := exec_pure.mp hbody
    have hs' : s' = s₁ := ha
    subst hs'
    exact ⟨hs, .inl ⟨rfl, by simp [writeOf]⟩⟩
  | true =>
    rw [if_pos rfl, exec_bind] at hbody
    obtain ⟨tr₁, k, t₁, tr₂, rfl, hc, hafter⟩ := hbody
    obtain ⟨s₂, ha₁, ha₂⟩ := (Kernel.accepts_append _).mp ha
    obtain ⟨hq, hlaid, hcopy⟩ := exec_bufferCopy hc ha₁ hs
    have hpre : ∀ e ∈ (⟨.mutexLock addr, true⟩ :: tr₁ : Trace posix),
        writeOf e.call e.reply = none := by
      intro e he
      rcases List.mem_cons.mp he with rfl | he
      · rfl
      · exact hq e he
    rcases hcopy with ⟨rfl, -, b, hb, hread⟩ | ⟨rfl, -, rfl⟩
    · rw [if_neg (by simp), exec_request_bind] at hafter
      obtain ⟨v, rest, rfl, hread'⟩ := hafter
      obtain ⟨s₃, hv, ha₂⟩ := ha₂
      obtain ⟨hv, hs₃⟩ : v = s₂ ∧ s₃ = s₂ := sendKernel_load.mp hv
      subst hv hs₃
      simp only [hb, hread] at hread'
      obtain ⟨mid, r, t₂, tr₂, rfl, hm, hunlock⟩ := exec_bind.mp hread'
      obtain ⟨u, rest, rfl, hret⟩ := exec_issue_bind.mp hunlock
      obtain ⟨rfl, rfl, rfl⟩ := exec_pure.mp hret
      obtain ⟨s₄, ha₃, s₅, hs₅, ha₄⟩ := (Kernel.accepts_append _).mp ha₂
      have hs₄ := hemit hm ha₃
      have hs' : s' = s₄ := (show s' = s₅ from ha₄).trans hs₅
      rw [hs', hs₄]
      refine ⟨hlaid, .inr ⟨⟨.mutexLock addr, true⟩ :: tr₁ ++ [⟨.loadSend addr, s₃⟩], t₁, mid, _, u,
        by simp, ?_, hm⟩⟩
      intro e he
      rcases List.mem_append.mp he with he | he
      · exact hpre e he
      · rw [List.mem_singleton.mp he]
        rfl
    · rw [if_pos (by simp), exec_issue_bind] at hafter
      obtain ⟨u, rest, rfl, hret⟩ := hafter
      obtain ⟨rfl, rfl, rfl⟩ := exec_pure.mp hret
      obtain ⟨s₃, hs₃, ha₂⟩ := ha₂
      have hs' : s' = s₂ := (show s' = s₃ from ha₂).trans hs₃
      rw [hs']
      refine ⟨hs, .inl ⟨rfl, ?_⟩⟩
      intro e he
      rw [← List.cons_append, List.mem_append] at he
      rcases he with he | he
      · exact hpre e he
      · rw [List.mem_singleton.mp he]
        rfl

end

end Udtcp
