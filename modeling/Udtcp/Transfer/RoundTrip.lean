import Udtcp.Receive.Capacity
import Udtcp.Send.Stream

/-!
# One message from end to end

`udtcp_send_tcp` on one side, `receive_tcp` on the other, and a connection between them
that has all the bytes of the frame available when the receiver looks.
-/

namespace Udtcp

open Interaction Routine

/-- The stream of connection `fd` with everything sent already there: a `recv` takes as much as
it asks for and there is. Asked for nothing, it reports nothing, or that nothing is there. -/
def availableKernel (fd : Fd) : Kernel posix (List UInt8) := fun q c r q' ↦
  match streamRecvOf c r with
  | none => q' = q
  | some x =>
    if x.fd = fd then
      if x.len = 0 then
        (x.result = .ok [] ∨ q = [] ∧ x.result = .error .ewouldblock) ∧ q' = q
      else if q = [] then
        x.result = .error .ewouldblock ∧ q' = q
      else
        x.result = .ok (q.take x.len) ∧ q' = q.drop x.len
    else q' = q

/-- The send structures that sends through address `addr` can leave behind. -/
def SendReached (addr : UInt64) (s : UdtcpSend) : Prop :=
  ∃ (t t' : Thread Unit) (requests : List Request) (tr : Trace posix) (rs : List Int),
    (∀ q ∈ requests, q.infos.send = addr) ∧ Exec (sendAll requests) t tr rs t' ∧
      (sendKernel addr).Accepts .zero tr s

/-- A call of `udtcp_send_tcp` whose allocation succeeds and whose frame is taken whole. -/
def SentWhole (infos : UdtcpInfos) (s : UdtcpSend) (data : Payload) (tr : Trace posix) : Prop :=
  ∃ (t t' : Thread Unit) (s' : UdtcpSend),
    Exec (udtcpSendTcp infos data) t tr (4 + data.val.length) t' ∧
      (sendKernel infos.send).Accepts s tr s' ∧ AllocationsSucceed tr

/-- A reception from `fd` with the bytes `bs` available, whose allocation succeeds: its calls,
its result and the bytes it leaves. -/
def Receives {τ : Type} (receive : Proc τ Int) (u : Thread τ) (fd : Fd) (bs : List UInt8)
    (tr : Trace posix) (n : Int) (rest : List UInt8) : Prop :=
  ∃ u', Exec receive u tr n u' ∧ (availableKernel fd).Accepts bs tr rest ∧ AllocationsSucceed tr

/-- The message can be sent; and whatever follows its frame on the stream, it is received: one
callback with the message, nothing else consumed, and a result above zero, on which the poll
loops go on. -/
def RoundTrip {τ : Type} (infos : UdtcpInfos) (s : UdtcpSend) (data : Payload)
    (receive : Proc τ Int) (u : Thread τ) (fd : Fd) (callback : List UInt8 → Callback) : Prop :=
  (∃ tr, SentWhole infos s data tr) ∧
  ∀ tr, SentWhole infos s data tr → ∀ rest,
    (∃ tr' n q, Receives receive u fd (stream (writes infos.tcpSocket tr) ++ rest) tr' n q) ∧
    ∀ tr' n q, Receives receive u fd (stream (writes infos.tcpSocket tr) ++ rest) tr' n q →
      callbacksOf tr' = [callback data.val] ∧ q = rest ∧ 0 < n

/-! ### The sending side -/

section

variable {infos : UdtcpInfos} {s : UdtcpSend} {data : Payload} {tr : Trace posix}

/-- A structure that messages left is laid out. -/
theorem SendReached.laid {addr : UInt64} (h : SendReached addr s) : s.Laid := by
  obtain ⟨t, t', requests, tr, rs, haddr, h, ha⟩ := h
  exact (sendAll_writes haddr h ha UdtcpSend.laid_zero 0).1

/-- What is written when a frame is taken whole. -/
theorem SentWhole.stream_eq (h : SentWhole infos s data tr) (hs : s.Laid) :
    stream (writes infos.tcpSocket tr) = Bytes.frame data.val := by
  obtain ⟨t, t', s', h, ha, -⟩ := h
  obtain ⟨-, ⟨h₀, -⟩ | ⟨pre, t₁, mid, t₂, u, rfl, hpre, hm⟩⟩ := exec_sendWith h ha hs fun h ha ↦ by
    obtain ⟨r, rfl, -⟩ := exec_emitTcp.mp h
    exact sendKernel_accepts_of_quiet ha (by simp [sendAccessOf])
  · omega
  · obtain ⟨r, rfl, hn, -⟩ := exec_emitTcp.mp hm
    rw [writes_sendWith hpre]
    cases r with
    | error e =>
      have : (4 + data.val.length : Int) = -1 := hn
      omega
    | ok k =>
      have hk : (4 + data.val.length : Int) = k.val := hn
      rw [writes_send_ok, stream_singleton]
      apply List.take_of_length_le
      change (Bytes.frame data.val).length ≤ k.val
      have hlen := Bytes.length_frame data.val
      omega

private theorem exists_growSend {τ : Type} (t : Thread τ) (addr : UInt64) {n : Nat} (hs : s.Laid)
    (hpos : 0 < n) : ∃ tr s₁ b, Exec (growSend addr n) t tr true t ∧
      (sendKernel addr).Accepts s tr s₁ ∧ AllocationsSucceed tr ∧
      s₁.buffer = some b ∧ s₁.sizeOffset = some 0 ∧ s₁.payloadOffset = some 4 := by
  by_cases hlt : s.bufferSize < n
  · let block : {b : Block // b.cap = (n + 4) % 2 ^ 32} := ⟨⟨1, _, fun _ ↦ 0⟩, rfl⟩
    let free : Trace posix := (s.buffer.map fun old ↦ ⟨.freeBuffer old.ptr, ()⟩).toList
    refine ⟨⟨.loadSend addr, s⟩ :: ⟨.sys (.newBuffer ((n + 4) % 2 ^ 32)), .ok block⟩ ::
      (free ++ [⟨.storeSend addr (s.grown block.val n), ()⟩]), s.grown block.val n, block.val,
      ?_, ?_, ?_, rfl, rfl, rfl⟩
    · refine exec_request_bind.mpr ⟨s, _, rfl, ?_⟩
      rw [if_pos hlt, exec_syscall_bind]
      refine ⟨.ok block, _, rfl, ?_⟩
      cases hb : s.buffer with
      | none =>
        simp only [free, hb]
        exact exec_issue_bind.mpr ⟨(), [], rfl, rfl, rfl⟩
      | some old =>
        simp only [free, hb]
        exact exec_issue_bind.mpr ⟨(), _, rfl, exec_issue_bind.mpr ⟨(), [], rfl, rfl, rfl⟩⟩
    · refine ⟨s, sendKernel_load.mpr ⟨rfl, rfl⟩, s, rfl, ?_⟩
      refine (Kernel.accepts_append _).mpr ⟨s, ?_, _, sendKernel_store.mpr rfl, rfl⟩
      cases hb : s.buffer with
      | none =>
        simp only [free, hb]
        rfl
      | some old =>
        simp only [free, hb]
        exact ⟨s, rfl, rfl⟩
    · have hfree : AllocationsSucceed free := by
        cases hb : s.buffer <;> simp [free, hb, AllocationFailed]
      simp [AllocationFailed, hfree]
  · obtain ⟨b, hb, h₁, h₂⟩ := hs.ready (by omega)
    refine ⟨[⟨.loadSend addr, s⟩], s, b, ?_, ⟨s, sendKernel_load.mpr ⟨rfl, rfl⟩, rfl⟩, ?_,
      hb, h₁, h₂⟩
    · refine exec_request_bind.mpr ⟨s, _, rfl, ?_⟩
      rw [if_neg hlt]
      exact exec_pure.mpr ⟨rfl, rfl, rfl⟩
    · simp [AllocationFailed]

/-- Every non-empty message can be sent, whatever was sent before. -/
theorem exists_sentWhole (hs : s.Laid) (hpos : 0 < data.val.length) :
    ∃ tr, SentWhole infos s data tr := by
  obtain ⟨tr, s₁, b, hg, ha, hal, hb, h₁, h₂⟩ :=
    exists_growSend (⟨.other 0, ()⟩ : Thread Unit) infos.send hs hpos
  let s₂ : UdtcpSend := { s₁ with
    buffer := some { b with
      mem := (b.mem.write 0 (Bytes.leBytes 4 data.val.length)).write 4 data.val }
    sizeOffset := some 0
    payloadOffset := some 4 }
  let whole : {n : Nat // n ≤ (Bytes.frame data.val).length} := ⟨4 + data.val.length, by simp⟩
  refine ⟨⟨.mutexLock infos.send, true⟩ :: ((tr ++ [⟨.loadSend infos.send, s₁⟩,
    ⟨.storeSend infos.send s₂, ()⟩]) ++ [⟨.loadSend infos.send, s₂⟩,
    ⟨.sys (.send infos.tcpSocket (Bytes.frame data.val)), .ok whole⟩,
    ⟨.mutexUnlock infos.send, ()⟩]), ⟨.other 0, ()⟩, ⟨.other 0, ()⟩, s₂, ?_, ?_, ?_⟩
  · refine exec_request_bind.mpr ⟨true, _, rfl, ?_⟩
    rw [if_pos rfl, exec_bind]
    refine ⟨_, 0, ⟨.other 0, ()⟩, _, rfl, ?_, ?_⟩
    · refine exec_bind.mpr ⟨tr, true, _, _, rfl, hg, ?_⟩
      rw [if_pos rfl, exec_request_bind]
      refine ⟨s₁, _, rfl, ?_⟩
      simp only [hb, h₁, h₂]
      exact exec_issue_bind.mpr ⟨(), [], rfl, exec_pure.mpr ⟨rfl, rfl, rfl⟩⟩
    · rw [if_neg (by simp), exec_request_bind]
      refine ⟨s₂, _, rfl, ?_⟩
      simp only [s₂, read_frame]
      rw [exec_bind]
      refine ⟨[⟨.sys (.send infos.tcpSocket (Bytes.frame data.val)), .ok whole⟩],
        4 + data.val.length, ⟨.other 0, ()⟩, _, rfl, ?_, ?_⟩
      · exact exec_emitTcp.mpr ⟨.ok whole, rfl, rfl, rfl⟩
      · exact exec_issue_bind.mpr ⟨(), [], rfl, exec_pure.mpr ⟨rfl, rfl, rfl⟩⟩
  · refine ⟨s, rfl, ?_⟩
    refine (Kernel.accepts_append _).mpr ⟨s₂, (Kernel.accepts_append _).mpr ⟨s₁, ha, ?_⟩, ?_⟩
    · exact ⟨s₁, sendKernel_load.mpr ⟨rfl, rfl⟩, s₂, sendKernel_store.mpr rfl, rfl⟩
    · exact ⟨s₂, sendKernel_load.mpr ⟨rfl, rfl⟩, s₂, rfl, s₂, rfl, rfl⟩
  · simp [AllocationFailed, hal]

end

/-! ### The receiving side -/

section

variable {fd : Fd} {deliver : Option (List UInt8 → Callback)} {success : Nat → Int}
  {t t' : Thread ReceiveBuffer} {tr : Trace posix} {n : Int} {data rest q' : List UInt8}

private theorem availableKernel_accepts_of_ne {q : List UInt8}
    (h : (availableKernel fd).Accepts q tr q')
    (hne : ∀ e ∈ tr, streamRecvOf e.call e.reply = none) : q' = q := by
  apply h.invariant (I := fun k ↦ k = q) _ rfl
  intro e he k₁ k₂ hk hs
  rw [availableKernel, hne e he] at hs
  exact hs.trans hk

private theorem availableKernel_accepts_quiet {q : List UInt8}
    (hne : ∀ e ∈ tr, streamRecvOf e.call e.reply = none) : (availableKernel fd).Accepts q tr q := by
  induction tr with
  | nil => rfl
  | cons e tr ih =>
    refine ⟨q, ?_, ih fun e' he' ↦ hne e' (List.mem_cons_of_mem _ he')⟩
    rw [availableKernel, hne e (by simp)]

private theorem frame_append_ne_nil (data rest : List UInt8) : Bytes.frame data ++ rest ≠ [] := by
  intro he
  have hlen := congrArg List.length he
  simp at hlen

private theorem drop_frame (data rest : List UInt8) :
    (Bytes.frame data ++ rest).drop 4 = data ++ rest := by
  rw [Bytes.frame, List.append_assoc, List.drop_append_of_le_length (by simp),
    List.drop_of_length_le (by simp), List.nil_append]

/-- Making room for a message neither receives nor calls back, and succeeds when its allocation
does. -/
theorem growBuffer_quiet {need : Nat} {ok : Bool} (h : Exec (growBuffer need) t tr ok t')
    (hal : AllocationsSucceed tr) (hb : t.self.Present) :
    ok = true ∧ need ≤ t'.self.bufferSize ∧ t'.self.Present ∧
      (∀ e ∈ tr, streamRecvOf e.call e.reply = none) ∧ callbacksOf tr = [] := by
  rcases exec_growBuffer.mp h with ⟨hle, rfl, hok, rfl⟩ | ⟨-, e, rfl, -, -⟩ |
    ⟨-, block, rfl, hok, rfl⟩
  · exact ⟨hok, hle, hb, by simp, rfl⟩
  · exact absurd hal (by simp [AllocationFailed])
  · have hrel : ∀ e ∈ t.self.release,
        streamRecvOf e.call e.reply = none ∧ callbackOf e.call = none := by
      intro e he
      obtain ⟨_, _, rfl⟩ := ReceiveBuffer.mem_release he
      exact ⟨rfl, rfl⟩
    refine ⟨hok, Nat.le_refl _, fun _ ↦ rfl, ?_, ?_⟩
    · intro e he
      rcases List.mem_cons.mp he with rfl | he
      · rfl
      · exact (hrel e he).1
    · apply callbacksOf_eq_nil
      intro e he
      rcases List.mem_cons.mp he with rfl | he
      · rfl
      · exact (hrel e he).2

/-- Reading back what was just received. -/
theorem ReceiveBuffer.bytes_fill {b : ReceiveBuffer} (h : b.bufferData.isSome)
    (data : List UInt8) : (b.fill 0 data).bytes 0 data.length = data := by
  obtain ⟨blk, hblk⟩ := Option.isSome_iff_exists.mp h
  simp only [fill, bytes, hblk, Option.map_some]
  exact Memory.read_write_self _ _ _

/-- A delivery calls the callback and reads nothing. -/
theorem callbacksOf_delivery (h : delivery deliver data tr) :
    callbacksOf tr = (deliver.map fun f ↦ f data).toList ∧
      ∀ e ∈ tr, streamRecvOf e.call e.reply = none := by
  cases deliver with
  | none =>
    have htr : tr = [] := h
    rw [htr]
    exact ⟨rfl, by simp⟩
  | some f =>
    obtain ⟨u, rfl⟩ := h
    refine ⟨rfl, fun e he ↦ ?_⟩
    rw [List.mem_singleton.mp he]
    rfl

private theorem availableKernel_recv {q : List UInt8} {target : Target} {len : Nat}
    {r : Except Errno (SysCall.recv fd target len).Result} (hq : q ≠ []) (hlen : len ≠ 0)
    (h : availableKernel fd q (.sys (.recv fd target len)) r q') :
    ∃ bs, r = .ok bs ∧ bs.val = q.take len ∧ q' = q.drop len := by
  cases r with
  | error e => simp [availableKernel, streamRecvOf, hq, hlen] at h
  | ok bs =>
    refine ⟨bs, rfl, ?_⟩
    simpa [availableKernel, streamRecvOf, hq, hlen] using h

private theorem receiveTcpWith_size (h : Exec (receiveTcpWith fd deliver success) t tr n t')
    (ha : (availableKernel fd).Accepts (Bytes.frame data ++ rest) tr q')
    (hal : AllocationsSucceed tr) (hb : t.self.Present) (hdata : Bytes.Framable data) :
    ∃ pre t₁ tail, tr = pre ++ tail ∧ callbacksOf pre = [] ∧ t₁.self.Present ∧
      data.length ≤ t₁.self.bufferSize ∧ (availableKernel fd).Accepts (data ++ rest) tail q' ∧
      Exec (receivePayload fd deliver success data.length) t₁ tail n t' := by
  obtain ⟨size, tail, rfl, hcases⟩ := exec_receiveTcpWith h
  obtain ⟨q₁, hq, ha⟩ := ha
  obtain ⟨bs, rfl, hbs, rfl⟩ := availableKernel_recv (frame_append_ne_nil data rest) (by simp) hq
  have hlen : bs.val.length = 4 := by
    rw [hbs, List.length_take, List.length_append, Bytes.length_frame]
    omega
  have hsize : Bytes.leNat bs.val = data.length := by
    rw [hbs]
    exact Bytes.leNat_take_frame hdata rest
  rw [drop_frame] at ha
  have hal' := (allocationsSucceed_cons.mp hal).2
  rcases hcases with ⟨_, he, -⟩ | ⟨_, he, hlen', -⟩ | ⟨_, he, -, hg, -⟩ |
    ⟨_, tr₁, t₁, tr₂, he, -, rfl, hg, hp⟩
  · cases he
  · cases he
    exact absurd hlen hlen'
  · cases he
    exact absurd (growBuffer_quiet hg hal' hb).1 (by simp)
  · cases he
    rw [hsize] at hg hp
    obtain ⟨hal₁, -⟩ := allocationsSucceed_append.mp hal'
    obtain ⟨-, hroom, hpres, hquiet, hcb⟩ := growBuffer_quiet hg hal₁ hb
    obtain ⟨q₂, ha₁, ha₂⟩ := (Kernel.accepts_append _).mp ha
    rw [availableKernel_accepts_of_ne ha₁ hquiet] at ha₂
    refine ⟨_ :: tr₁, t₁, tr₂, rfl, ?_, hpres, hroom, ha₂, hp⟩
    exact hcb

/-- **Receiving a frame** that is all there: the message is delivered once and the frame
consumed. -/
theorem receiveTcpWith_available (h : Exec (receiveTcpWith fd deliver success) t tr n t')
    (ha : (availableKernel fd).Accepts (Bytes.frame data ++ rest) tr q')
    (hal : AllocationsSucceed tr) (hb : t.self.Present) (hdata : Bytes.Framable data)
    (hpos : 0 < data.length) :
    n = success data.length ∧ q' = rest ∧
      callbacksOf tr = (deliver.map fun f ↦ f data).toList := by
  obtain ⟨pre, t₁, tail, rfl, hpre, hpres, hroom, ha, hp⟩ := receiveTcpWith_size h ha hal hb hdata
  obtain ⟨tr₁, k, t₂, rest', rfl, hrecv, hend⟩ := exec_receivePayload hp
  obtain ⟨q₁, ha₁, ha₂⟩ := (Kernel.accepts_append _).mp ha
  have hne : data ++ rest ≠ [] :=
    List.append_ne_nil_of_left_ne_nil (List.ne_nil_of_length_pos hpos) rest
  rcases exec_recvBuffer.mp hrecv with ⟨e, rfl, -, -⟩ | ⟨bs, rfl, rfl, rfl⟩
  · obtain ⟨q₂, hq, -⟩ := ha₁
    obtain ⟨_, he, -⟩ := availableKernel_recv hne (by omega) hq
    cases he
  · obtain ⟨q₂, hq, hq₁⟩ := ha₁
    obtain ⟨_, he, hbs, hq₂⟩ := availableKernel_recv hne (by omega) hq
    cases he
    have hq₁ : q₁ = q₂ := hq₁
    rw [List.take_append_of_le_length (Nat.le_refl _), List.take_length] at hbs
    rw [List.drop_append_of_le_length (Nat.le_refl _), List.drop_length, List.nil_append] at hq₂
    rw [hbs] at hend
    rw [hq₁, hq₂] at ha₂
    rcases hend with ⟨hk, -⟩ | ⟨-, tr₂, r, t₃, tr₃, rfl, hloop, rfl, hlast⟩
    · omega
    · rw [Int.toNat_natCast] at hloop
      obtain ⟨rfl, rfl, rfl⟩ := exec_reassemble_done.mp hloop
      rcases hlast with ⟨hr, -⟩ | ⟨-, hn, hdel⟩
      · cases hr
      · rw [ReceiveBuffer.bytes_fill (hpres (by omega))] at hdel
        obtain ⟨hcb, hquiet⟩ := callbacksOf_delivery hdel
        rw [List.nil_append] at ha₂
        refine ⟨hn, availableKernel_accepts_of_ne ha₂ hquiet, ?_⟩
        rw [callbacksOf_append, callbacksOf_append, hpre, List.nil_append, List.nil_append, hcb]
        rfl

/-- An empty message is not delivered. -/
theorem receiveTcpWith_available_nil (h : Exec (receiveTcpWith fd deliver success) t tr n t')
    (ha : (availableKernel fd).Accepts (Bytes.frame [] ++ rest) tr q')
    (hal : AllocationsSucceed tr) (hb : t.self.Present) : callbacksOf tr = [] := by
  obtain ⟨pre, t₁, tail, rfl, hpre, -, -, ha, hp⟩ :=
    receiveTcpWith_size h ha hal hb (by simp [Bytes.Framable])
  obtain ⟨tr₁, k, t₂, rest', rfl, hrecv, hend⟩ := exec_receivePayload hp
  obtain ⟨q₁, ha₁, -⟩ := (Kernel.accepts_append _).mp ha
  have hk : k ≤ 0 ∧ callbacksOf tr₁ = [] := by
    rcases exec_recvBuffer.mp hrecv with ⟨e, rfl, rfl, -⟩ | ⟨bs, rfl, rfl, -⟩
    · exact ⟨by omega, rfl⟩
    · have hbs : bs.val.length ≤ 0 := bs.property
      exact ⟨by omega, rfl⟩
  rcases hend with ⟨-, rfl, -⟩ | ⟨hpos, -⟩
  · rw [callbacksOf_append, callbacksOf_append, hpre, hk.2]
    rfl
  · omega

/-- Room can be made when memory is there. -/
theorem exists_growBuffer (t : Thread ReceiveBuffer) (need : Nat) :
    ∃ tr t₁, Exec (growBuffer need) t tr true t₁ ∧ AllocationsSucceed tr ∧
      ∀ e ∈ tr, streamRecvOf e.call e.reply = none := by
  by_cases hlt : t.self.bufferSize < need
  · let block : {b : Block // b.cap = need % 2 ^ 32} := ⟨⟨1, _, fun _ ↦ 0⟩, rfl⟩
    refine ⟨_, _, exec_growBuffer.mpr (.inr (.inr ⟨hlt, block, rfl, rfl, rfl⟩)), ?_, ?_⟩
    · have hrel : AllocationsSucceed t.self.release := by
        intro e he
        obtain ⟨_, _, rfl⟩ := ReceiveBuffer.mem_release he
        simp [AllocationFailed]
      simp [AllocationFailed, hrel]
    · intro e he
      rcases List.mem_cons.mp he with rfl | he
      · rfl
      · obtain ⟨_, _, rfl⟩ := ReceiveBuffer.mem_release he
        rfl
  · exact ⟨[], t, exec_growBuffer.mpr (.inl ⟨by omega, rfl, rfl, rfl⟩), by simp, by simp⟩

private theorem exec_receivePayload_whole {deliver : Option (List UInt8 → Callback)}
    {success : Nat → Int} {size : Nat} {t t₁ t' : Thread ReceiveBuffer} {recv tail : Trace posix}
    {n : Int} (hpos : size ≠ 0) (hrecv : Exec (recvBuffer fd 0 size) t recv size t₁)
    (h : Exec (match deliver with
      | some f => do issue (.callback (f ((← self).bytes 0 size))); return success size
      | none => return success size) t₁ tail n t') :
    Exec (receivePayload fd deliver success size) t (recv ++ tail) n t' := by
  refine exec_bind.mpr ⟨recv, _, t₁, tail, rfl, hrecv, ?_⟩
  rw [if_neg (by omega), if_neg (by omega), exec_bind]
  refine ⟨[], none, t₁, tail, rfl, ?_, ?_⟩
  · rw [Int.toNat_natCast]
    exact exec_reassemble_done.mpr ⟨rfl, rfl, rfl⟩
  · cases deliver <;> exact h

private theorem exists_receivePayload (fd : Fd) (deliver : Option (List UInt8 → Callback))
    (success : Nat → Int) (data rest : List UInt8) (t : Thread ReceiveBuffer) :
    ∃ tr n t' q', Exec (receivePayload fd deliver success data.length) t tr n t' ∧
      (availableKernel fd).Accepts (data ++ rest) tr q' ∧ AllocationsSucceed tr := by
  let bs : {bs : List UInt8 // bs.length ≤ data.length} := ⟨data, Nat.le_refl _⟩
  let recv : Trace posix := [⟨.sys (.recv fd (t.self.target 0) data.length), .ok bs⟩]
  let t₁ : Thread ReceiveBuffer := { t with self := t.self.fill 0 data }
  have hrecv : Exec (recvBuffer fd 0 data.length) t recv data.length t₁ :=
    exec_recvBuffer.mpr (.inr ⟨bs, rfl, rfl, rfl⟩)
  have hqueue : (availableKernel fd).Accepts (data ++ rest) recv rest := by
    refine ⟨rest, ?_, rfl⟩
    by_cases h₀ : data = []
    · simp [availableKernel, streamRecvOf, bs, h₀]
    · simp [availableKernel, streamRecvOf, bs, h₀]
  have hal : AllocationsSucceed recv := by simp [recv, AllocationFailed]
  by_cases h₀ : data.length = 0
  · refine ⟨recv ++ [], 0, t₁, rest, exec_bind.mpr ⟨recv, _, t₁, [], rfl, hrecv, ?_⟩, ?_, ?_⟩
    · rw [if_neg (by omega), if_pos (by omega)]
      exact exec_pure.mpr ⟨rfl, rfl, rfl⟩
    · rwa [List.append_nil]
    · rwa [List.append_nil]
  · cases deliver with
    | none =>
      refine ⟨recv ++ [], _, t₁, rest, exec_receivePayload_whole h₀ hrecv
        (exec_pure.mpr ⟨rfl, rfl, rfl⟩), ?_, ?_⟩
      · rwa [List.append_nil]
      · rwa [List.append_nil]
    | some f =>
      refine ⟨recv ++ [⟨.callback (f (t₁.self.bytes 0 data.length)), ()⟩], success data.length, t₁,
        rest, exec_receivePayload_whole h₀ hrecv ?_, ?_, ?_⟩
      · exact exec_self_bind.mpr
          (exec_issue_bind.mpr ⟨(), [], rfl, exec_pure.mpr ⟨rfl, rfl, rfl⟩⟩)
      · exact (Kernel.accepts_append _).mpr ⟨rest, hqueue, rest, rfl, rfl⟩
      · simp [hal, AllocationFailed]

/-- A reception of the frame exists, with an allocator that has memory. -/
theorem exists_receiveTcpWith (fd : Fd) (deliver : Option (List UInt8 → Callback))
    (success : Nat → Int) (rest : List UInt8) (t : Thread ReceiveBuffer)
    (hdata : Bytes.Framable data) :
    ∃ tr n t' q', Exec (receiveTcpWith fd deliver success) t tr n t' ∧
      (availableKernel fd).Accepts (Bytes.frame data ++ rest) tr q' ∧ AllocationsSucceed tr := by
  obtain ⟨tr₁, t₁, hg, hal₁, hquiet⟩ := exists_growBuffer t data.length
  obtain ⟨tr₂, n, t', q', hp, ha, hal₂⟩ := exists_receivePayload fd deliver success data rest t₁
  have htake : ((Bytes.frame data ++ rest).take 4).length = 4 := by simp; omega
  let size : {bs : List UInt8 // bs.length ≤ 4} :=
    ⟨(Bytes.frame data ++ rest).take 4, Nat.le_of_eq htake⟩
  have hsize : Bytes.leNat size.val = data.length := Bytes.leNat_take_frame hdata rest
  have hdrop : (Bytes.frame data ++ rest).drop 4 = data ++ rest := drop_frame data rest
  refine ⟨⟨.sys (.recv fd .word 4), .ok size⟩ :: (tr₁ ++ tr₂), n, t', q', ?_, ?_, ?_⟩
  · refine exec_syscall_bind.mpr ⟨.ok size, tr₁ ++ tr₂, rfl, ?_⟩
    have hlen : size.val.length = 4 := htake
    change Exec (if size.val.length = 0 then _ else if size.val.length ≠ 4 then _ else _) _ _ _ _
    rw [if_neg (by omega), if_neg (by omega), hsize]
    refine exec_bind.mpr ⟨tr₁, true, t₁, tr₂, rfl, hg, ?_⟩
    exact hp
  · refine ⟨data ++ rest, ?_, (Kernel.accepts_append _).mpr ⟨data ++ rest, ?_, ha⟩⟩
    · have hne : Bytes.frame data ++ rest ≠ [] := frame_append_ne_nil data rest
      simpa [availableKernel, streamRecvOf, hne, size] using hdrop.symm
    · exact availableKernel_accepts_quiet hquiet
  · simp [AllocationFailed, hal₁, hal₂]

end

/-! ### Both sides -/

section

variable {τ : Type} {infos : UdtcpInfos} {s : UdtcpSend} {data : Payload} {receive : Proc τ Int}
  {u : Thread τ} {fd : Fd} {callback : List UInt8 → Callback} {b : ReceiveBuffer}

/-- A receiver that is the common one on a buffer makes the round trip exactly for the non-empty
messages on whose size it reports success. -/
theorem roundTrip_iff (success : Nat → Int) (put : Thread ReceiveBuffer → Thread τ) (hs : s.Laid)
    (hb : b.Present) (hreceive : ∀ tr n u', Exec receive u tr n u' ↔
      ∃ v, Exec (receiveTcpWith fd (some callback) success) ⟨u.errno, b⟩ tr n v ∧
        u' = put v) :
    RoundTrip infos s data receive u fd callback ↔
      1 ≤ data.val.length ∧ 0 < success data.val.length := by
  constructor
  · rintro ⟨⟨tr, hsent⟩, hall⟩
    obtain ⟨⟨tr', n, q, hrec⟩, hall⟩ := hall tr hsent []
    obtain ⟨hcb, hq, hpos⟩ := hall tr' n q hrec
    obtain ⟨u', h, ha, hal⟩ := hrec
    obtain ⟨v, hv, -⟩ := (hreceive _ _ _).mp h
    rw [hsent.stream_eq hs] at ha
    have hne : data.val ≠ [] := by
      intro h₀
      rw [h₀] at ha
      rw [receiveTcpWith_available_nil hv ha hal hb] at hcb
      cases hcb
    have hlen := List.length_pos_iff.mpr hne
    obtain ⟨hn, -, -⟩ := receiveTcpWith_available hv ha hal hb data.property hlen
    rw [hn] at hpos
    exact ⟨hlen, hpos⟩
  · rintro ⟨hlen, hpos⟩
    refine ⟨exists_sentWhole hs hlen, fun tr hsent rest ↦ ?_⟩
    rw [hsent.stream_eq hs]
    constructor
    · obtain ⟨tr', n, v, q, hv, ha, hal⟩ := exists_receiveTcpWith fd (some callback) success rest
        ⟨u.errno, b⟩ data.property
      exact ⟨tr', n, q, put v, (hreceive _ _ _).mpr ⟨v, hv, rfl⟩, ha, hal⟩
    · rintro tr' n q ⟨u', h, ha, hal⟩
      obtain ⟨v, hv, -⟩ := (hreceive _ _ _).mp h
      obtain ⟨hn, hq, hcb⟩ := receiveTcpWith_available hv ha hal hb data.property hlen
      exact ⟨hcb, hq, hn ▸ hpos⟩

end

/-- **Round trip.** For every send structure that can arise, every receive buffer whose size is
backed by its block, and every message whose frame fits into 32 bits: the server receives it, with a
result its poll loop takes for success, exactly when it is not empty and shorter than `2 ^ 31`
bytes, and the client exactly when it is not empty. -/
theorem tcp_round_trip_iff {infos : UdtcpInfos} {s : UdtcpSend} {data : Payload} {b : ReceiveBuffer}
    (hs : SendReached infos.send s) (hb : b.Backed) (hlen : data.val.length ≤ 2 ^ 32 - 5) :
    (∀ m (u : Thread (UdtcpServer m)) slot, u.self.buffer = b → u.self.receiveTcpCallback = true →
      (RoundTrip infos s data (receiveTcp slot) u (u.self.infos slot).tcpSocket
        (.receiveTcp slot (u.self.infos slot)) ↔
        1 ≤ data.val.length ∧ data.val.length < 2 ^ 31)) ∧
    (∀ u : Thread UdtcpClient, u.self.buffer = b → u.self.receiveTcpCallback = true →
      (RoundTrip infos s data Client.receiveTcp u u.self.serverInfos.tcpSocket
        (.receiveTcp 1 u.self.serverInfos) ↔ 1 ≤ data.val.length)) := by
  constructor
  · intro m u slot hu hcb
    subst hu
    rw [roundTrip_iff cInt (fun v ↦ ⟨v.errno, { u.self with buffer := v.self }⟩) hs.laid hb.present,
      cInt_pos_iff data.property]
    · omega
    · intro tr n u'
      rw [exec_receiveTcp, UdtcpServer.tcpDeliver, if_pos hcb]
  · intro u hu hcb
    subst hu
    rw [roundTrip_iff (fun _ ↦ 1) (fun v ↦ ⟨v.errno, { u.self with buffer := v.self }⟩) hs.laid
      hb.present]
    · omega
    · intro tr n u'
      rw [Client.exec_receiveTcp, Client.tcpDeliver, if_pos hcb]

/-- A record with the send structure at address 64. -/
def sampleInfos : UdtcpInfos := { UdtcpInfos.zero with tcpSocket := 7, send := 64 }

/-- A server without clients and with a callback for TCP messages. -/
def sampleServer : Thread (UdtcpServer 1) :=
  ⟨.other 0, { (UdtcpServer.listening 3 4 : UdtcpServer 1) with receiveTcpCallback := true }⟩

/-- A message of one byte makes the round trip, over a fresh structure and a fresh buffer. -/
theorem tcp_round_trip_one_byte :
    RoundTrip sampleInfos .zero ⟨[7], by simp⟩ (receiveTcp 2) sampleServer
      (sampleServer.self.infos 2).tcpSocket (.receiveTcp 2 (sampleServer.self.infos 2)) := by
  have hs : SendReached sampleInfos.send .zero :=
    ⟨⟨.other 0, ()⟩, ⟨.other 0, ()⟩, [], [], [], by simp, exec_pure.mpr ⟨rfl, rfl, rfl⟩, rfl⟩
  have hlen : (⟨[7], by simp⟩ : Payload).val.length ≤ 2 ^ 32 - 5 := by simp
  exact ((tcp_round_trip_iff hs .empty hlen).1 1 sampleServer 2 rfl rfl).mpr ⟨by simp, by simp⟩

/-- An empty message cannot even be sent through a fresh structure: its size is written through
a null pointer. -/
theorem tcp_round_trip_fails_empty :
    (¬ ∃ tr, SentWhole sampleInfos .zero ⟨[], by simp⟩ tr) ∧
    ¬ RoundTrip sampleInfos .zero ⟨[], by simp⟩ (receiveTcp 2) sampleServer
      (sampleServer.self.infos 2).tcpSocket (.receiveTcp 2 (sampleServer.self.infos 2)) := by
  have hno : ¬ ∃ tr, SentWhole sampleInfos .zero ⟨[], by simp⟩ tr := by
    rintro ⟨tr, t, t', s', h, ha, -⟩
    obtain ⟨locked, rest, rfl, hbody⟩ := exec_request_bind.mp h
    obtain ⟨s₁, hs₁, ha⟩ := ha
    have hs₁ : s₁ = .zero := hs₁
    subst hs₁
    cases locked with
    | false => exact absurd (exec_pure.mp hbody).2.1 (by simp)
    | true =>
      rw [if_pos rfl, exec_bind] at hbody
      obtain ⟨tr₁, k, t₁, tr₂, rfl, hcopy, -⟩ := hbody
      obtain ⟨s₂, ha₁, -⟩ := (Kernel.accepts_append _).mp ha
      obtain ⟨tr₃, ok, t₂, tr₄, rfl, hgrow, hwrite⟩ := exec_bind.mp hcopy
      obtain ⟨s₃, ha₃, ha₄⟩ := (Kernel.accepts_append _).mp ha₁
      obtain ⟨-, ⟨-, rfl, rfl, -⟩ | ⟨hlt, -⟩ | ⟨hlt, -⟩⟩ := exec_growSend hgrow ha₃
      · rw [if_pos rfl, exec_request_bind] at hwrite
        obtain ⟨v, rest, rfl, hcrash⟩ := hwrite
        obtain ⟨s₄, hv, -⟩ := ha₄
        have hv : v = .zero := (sendKernel_load.mp hv).1
        subst hv
        exact exec_crash hcrash
      · exact absurd hlt (by simp)
      · exact absurd hlt (by simp)
  exact ⟨hno, fun h ↦ hno h.1⟩

end Udtcp
