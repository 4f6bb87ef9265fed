import Udtcp.Send.Structure

/-!
# The byte stream of a connection

What a sequence of sends puts on the TCP stream, `udtcp/src/send.c:62–80`. The sockets are
non-blocking, so `send` may take any prefix of a frame; the rest of it is never sent.
-/

namespace Udtcp

open Interaction Routine

/-- The bytes a sequence of writes put on the stream. -/
def stream (ws : List Write) : List UInt8 := ws.flatMap Write.accepted

/-- Every write hands over one whole frame. -/
def Framed (ws : List Write) : Prop :=
  ∀ w ∈ ws, (∃ m, Bytes.Framable m ∧ w.bytes = Bytes.frame m) ∧ w.count ≤ w.bytes.length

/-- A write took some of its bytes, but not all. -/
def Write.Cut (w : Write) : Prop := 0 < w.count ∧ w.count < w.bytes.length

/-- After a write that took some of its bytes but not all, no write takes any. -/
def NothingAfterCut (ws : List Write) : Prop := ws.Pairwise fun w v ↦ w.Cut → v.count = 0

/-- No torn frame: the stream is whole frames and at most one incomplete one behind them, and
whenever a write puts bytes on it, what is there before consists of whole frames. -/
structure Untorn (ws : List Write) : Prop where
  frames : ∃ bs part, stream ws = bs ++ part ∧ Bytes.Whole bs ∧ Bytes.Incomplete part
  ordered : ∀ ws₁ w ws₂, ws = ws₁ ++ w :: ws₂ → 0 < w.count → Bytes.Whole (stream ws₁)

/-! ### Reading the stream -/

@[simp] private theorem stream_nil : stream [] = [] := rfl

@[simp] private theorem stream_append (ws vs : List Write) :
    stream (ws ++ vs) = stream ws ++ stream vs :=
  List.flatMap_append

/-- The stream of one write is what was accepted of it. -/
@[simp] theorem stream_singleton (w : Write) : stream [w] = w.accepted := by simp [stream]

private theorem incomplete_nil : Bytes.Incomplete [] :=
  ⟨[], by simp [Bytes.Framable], List.nil_prefix, by simp⟩

/-- Writes in two parts are frames if both parts are. -/
theorem Framed.append {ws vs : List Write} : Framed (ws ++ vs) ↔ Framed ws ∧ Framed vs :=
  List.forall_mem_append

/-- Without a cut, the stream consists of whole frames. -/
theorem Framed.whole {ws : List Write} (hf : Framed ws) (hc : ∀ w ∈ ws, ¬ w.Cut) :
    Bytes.Whole (stream ws) := by
  induction ws using List.reverseRecOn with
  | nil => exact Bytes.whole_nil
  | append_singleton ws w ih =>
    have hws := ih (Framed.append.mp hf).1 fun v hv ↦ hc v (List.mem_append_left _ hv)
    obtain ⟨⟨m, hm, hbytes⟩, hle⟩ := hf w (by simp)
    have hw := hc w (by simp)
    rw [stream_append, stream_singleton, Write.accepted]
    by_cases h : w.count = 0
    · rw [h, List.take_zero, List.append_nil]
      exact hws
    · have hall : w.bytes.length ≤ w.count := by
        unfold Write.Cut at hw
        omega
      rw [List.take_of_length_le hall, hbytes]
      exact hws.append_frame hm

/-- Where nothing follows a cut, the cut write is the incomplete end of the stream. -/
theorem Framed.ends {ws : List Write} (hf : Framed ws) (hn : NothingAfterCut ws) :
    ∃ bs part, stream ws = bs ++ part ∧ Bytes.Whole bs ∧ Bytes.Incomplete part ∧
      ((∃ w ∈ ws, w.Cut) → part ≠ []) := by
  induction ws using List.reverseRecOn with
  | nil => exact ⟨[], [], rfl, Bytes.whole_nil, incomplete_nil, by simp⟩
  | append_singleton ws w ih =>
    obtain ⟨hws, hw⟩ := Framed.append.mp hf
    obtain ⟨hn₁, -, hn₂⟩ := List.pairwise_append.mp hn
    obtain ⟨⟨m, hm, hbytes⟩, hle⟩ := hw w (by simp)
    rw [stream_append, stream_singleton, Write.accepted]
    by_cases h : w.count = 0
    · obtain ⟨bs, part, hs, hbs, hpart, hne⟩ := ih hws hn₁
      rw [h, List.take_zero, List.append_nil]
      refine ⟨bs, part, hs, hbs, hpart, ?_⟩
      rintro ⟨v, hv, hcut⟩
      apply hne
      rcases List.mem_append.mp hv with hv | hv
      · exact ⟨v, hv, hcut⟩
      · rw [List.mem_singleton.mp hv] at hcut
        exact absurd hcut.1 (by omega)
    · -- bytes are put on the stream, so nothing before was cut
      have hwhole := hws.whole fun v hv hcut ↦ h (hn₂ v hv w (by simp) hcut)
      by_cases hall : w.count = w.bytes.length
      · refine ⟨stream ws ++ w.bytes, [], ?_, ?_, incomplete_nil, ?_⟩
        · rw [List.take_of_length_le (by omega), List.append_nil]
        · rw [hbytes]
          exact hwhole.append_frame hm
        · rintro ⟨v, hv, hcut⟩
          rcases List.mem_append.mp hv with hv | hv
          · exact absurd (hn₂ v hv w (by simp) hcut) h
          · rw [List.mem_singleton.mp hv] at hcut
            exact absurd hcut.2 (by omega)
      · refine ⟨stream ws, w.bytes.take w.count, rfl, hwhole, ⟨m, hm, ?_, ?_⟩, ?_⟩
        · rw [hbytes]
          exact List.take_prefix _ _
        · rw [List.length_take, ← hbytes]
          omega
        · intro _ he
          have hlen := congrArg List.length he
          rw [List.length_take, List.length_nil, hbytes, Bytes.length_frame] at hlen
          omega

/-- **Torn frames come from cut writes.** For writes of frames, the stream is untorn exactly
when nothing is taken after a cut write. -/
theorem Framed.untorn_iff {ws : List Write} (hf : Framed ws) : Untorn ws ↔ NothingAfterCut ws := by
  constructor
  · intro hu
    have hord := hu.ordered
    clear hu
    induction ws using List.reverseRecOn with
    | nil => exact List.Pairwise.nil
    | append_singleton ws v ih =>
      obtain ⟨hws, -⟩ := Framed.append.mp hf
      have hn := ih hws fun ws₁ w ws₂ he hw ↦
        hord ws₁ w (ws₂ ++ [v]) (by rw [he]; simp) hw
      refine List.pairwise_append.mpr ⟨hn, List.pairwise_singleton _ _, ?_⟩
      intro u hu w hw hcut
      rw [List.mem_singleton.mp hw]
      by_contra hv
      -- the stream before `v` would be whole, and yet end in the cut frame of `u`
      have hwhole := hord ws v [] rfl (by omega)
      obtain ⟨bs, part, hs, hbs, hpart, hne⟩ := hws.ends hn
      rw [hs] at hwhole
      exact hbs.not_whole_append hpart (hne ⟨u, hu, hcut⟩) hwhole
  · intro hn
    constructor
    · obtain ⟨bs, part, hs, hbs, hpart, -⟩ := hf.ends hn
      exact ⟨bs, part, hs, hbs, hpart⟩
    · rintro ws₁ w ws₂ rfl hw
      obtain ⟨-, -, hcross⟩ := List.pairwise_append.mp hn
      apply (Framed.append.mp hf).1.whole
      intro v hv hcut
      exact absurd (hcross v hv w (by simp) hcut) (by omega)

/-! ### Runs -/

section

variable {τ : Type} {t t' : Thread τ} {tr : Trace posix} {s s' : UdtcpSend} {addr : UInt64}

private theorem count_le_of_writeOf {e : Event posix} {w : Write}
    (h : writeOf e.call e.reply = some w) :
    w.count ≤ w.bytes.length := by
  obtain ⟨c, r⟩ := e
  simp only [writeOf] at h
  split at h
  · next n =>
    cases h
    exact n.property
  · cases h
    exact Nat.zero_le _
  · cases h

private theorem count_le_of_mem_writes {fd : Fd} {w : Write} (h : w ∈ writes fd tr) :
    w.count ≤ w.bytes.length := by
  obtain ⟨e, -, he⟩ := List.mem_filterMap.mp h
  exact count_le_of_writeOf (Option.filter_eq_some_iff.mp he).1

private theorem bytes_of_writeOf_send {fd : Fd} {bytes : List UInt8}
    {r : Except Errno (SysCall.send fd bytes).Result} {w : Write}
    (h : writeOf (.sys (.send fd bytes)) r = some w) : w.bytes = bytes := by
  cases r <;> (cases h; rfl)

/-- Everything a send writes is what it hands over. -/
theorem writes_sendWith {pre mid : Trace posix} {fd : Fd}
    {u : Call.Reply (.mutexUnlock addr)}
    (hpre : ∀ e ∈ pre, writeOf e.call e.reply = none) :
    writes fd (pre ++ (mid ++ [⟨.mutexUnlock addr, u⟩])) = writes fd mid := by
  rw [writes_append, writes_append, writes_eq_nil hpre, List.nil_append]
  exact List.append_nil _

/-- One request writes at most the frame of its message. -/
theorem Request.run_writes {q : Request} {n : Int} (hq : q.infos.send = addr)
    (h : Exec q.run t tr n t') (ha : (sendKernel addr).Accepts s tr s') (hs : s.Laid) (fd : Fd) :
    s'.Laid ∧ ∀ w ∈ writes fd tr, w.bytes = Bytes.frame q.data.val := by
  subst hq
  unfold Request.run at h
  split at h
  · obtain ⟨hlaid, ⟨-, hquiet⟩ | ⟨pre, t₁, mid, t₂, u, rfl, hpre, hm⟩⟩ := exec_sendWith h ha hs
      fun h ha ↦ by
        obtain ⟨r, rfl, -⟩ := exec_emitUdp.mp h
        exact sendKernel_accepts_of_quiet ha (by simp [sendAccessOf])
    · rw [writes_eq_nil hquiet]
      exact ⟨hlaid, by simp⟩
    · obtain ⟨r, rfl, -⟩ := exec_emitUdp.mp hm
      rw [writes_sendWith hpre, writes_eq_nil (by simp [writeOf])]
      exact ⟨hlaid, by simp⟩
  · obtain ⟨hlaid, ⟨-, hquiet⟩ | ⟨pre, t₁, mid, t₂, u, rfl, hpre, hm⟩⟩ := exec_sendWith h ha hs
      fun h ha ↦ by
        obtain ⟨r, rfl, -⟩ := exec_emitTcp.mp h
        exact sendKernel_accepts_of_quiet ha (by simp [sendAccessOf])
    · rw [writes_eq_nil hquiet]
      exact ⟨hlaid, by simp⟩
    · obtain ⟨r, rfl, -⟩ := exec_emitTcp.mp hm
      rw [writes_sendWith hpre]
      refine ⟨hlaid, fun w hw ↦ ?_⟩
      obtain ⟨e, he, hw⟩ := List.mem_filterMap.mp hw
      rw [List.mem_singleton.mp he, Option.filter_eq_some_iff] at hw
      exact bytes_of_writeOf_send hw.1

/-- **Runs of sends.** Whatever was sent before, every write of a sequence of sends hands over
the frame of one of the messages. -/
theorem sendAll_writes {qs : List Request} {rs : List Int} (hqs : ∀ q ∈ qs, q.infos.send = addr)
    (h : Exec (sendAll qs) t tr rs t') (ha : (sendKernel addr).Accepts s tr s') (hs : s.Laid)
    (fd : Fd) : s'.Laid ∧ ∀ w ∈ writes fd tr, ∃ q ∈ qs, w.bytes = Bytes.frame q.data.val := by
  induction qs generalizing t tr rs s with
  | nil =>
    obtain ⟨rfl, -, -⟩ := exec_pure.mp h
    have hs' : s' = s := ha
    exact ⟨hs' ▸ hs, by simp [writes]⟩
  | cons q qs ih =>
    obtain ⟨tr₁, n, t₁, _, rfl, h₁, hrest⟩ := exec_bind.mp h
    obtain ⟨tr₂, rs', t₂, _, rfl, h₂, hret⟩ := exec_bind.mp hrest
    obtain ⟨rfl, rfl, rfl⟩ := exec_pure.mp hret
    rw [List.append_nil] at ha ⊢
    obtain ⟨s₁, ha₁, ha₂⟩ := (Kernel.accepts_append _).mp ha
    obtain ⟨hs₁, hw₁⟩ := Request.run_writes (hqs q (by simp)) h₁ ha₁ hs fd
    obtain ⟨hs', hw₂⟩ := ih (fun q hq ↦ hqs q (List.mem_cons_of_mem _ hq)) h₂ ha₂ hs₁
    refine ⟨hs', fun w hw ↦ ?_⟩
    rw [writes_append, List.mem_append] at hw
    rcases hw with hw | hw
    · exact ⟨q, by simp, hw₁ w hw⟩
    · obtain ⟨q', hq', hw⟩ := hw₂ w hw
      exact ⟨q', List.mem_cons_of_mem _ hq', hw⟩

end

/-- **Torn frames.** For every sequence of sends through a send structure, from its creation
on: the stream of a connection is untorn exactly when `send` takes no byte after a call of which
it took some but not all bytes. -/
theorem tcp_stream_untorn_iff {τ : Type} {t t' : Thread τ} {tr : Trace posix} {s' : UdtcpSend}
    {addr : UInt64} {requests : List Request} {results : List Int} {fd : Fd}
    (haddr : ∀ q ∈ requests, q.infos.send = addr)
    (h : Exec (sendAll requests) t tr results t')
    (ha : (sendKernel addr).Accepts .zero tr s') :
    Untorn (writes fd tr) ↔ NothingAfterCut (writes fd tr) := by
  apply Framed.untorn_iff
  intro w hw
  obtain ⟨q, -, hbytes⟩ := (sendAll_writes haddr h ha UdtcpSend.laid_zero fd).2 w hw
  exact ⟨⟨q.data.val, q.data.property, hbytes⟩, count_le_of_mem_writes hw⟩

/-- Two one-byte messages through the record of socket 7. -/
def twoMessages : List Request :=
  [⟨{ UdtcpInfos.zero with tcpSocket := 7, send := 64 }, false, Payload.single 1⟩,
   ⟨{ UdtcpInfos.zero with tcpSocket := 7, send := 64 }, false, Payload.single 2⟩]

/-- Their send structure, after the first `i` messages and behind memory `mem`. -/
def twoMessagesSend (mem : Memory) : UdtcpSend := UdtcpSend.zero.grown ⟨9, 5, mem⟩ 1

/-- The memory after a one-byte message was copied. -/
def oneByteCopied (mem : Memory) (b : UInt8) : Memory :=
  (mem.write 0 (Bytes.leBytes 4 1)).write 4 [b]

/-- The calls of sending them, when the kernel takes `n` bytes of the first frame and `k` of the
second. -/
def twoSends (n k : {n : Nat // n ≤ 5}) : Trace posix :=
  let mem₁ := oneByteCopied (fun _ ↦ 0) 1
  let mem₂ := oneByteCopied mem₁ 2
  [⟨.mutexLock 64, true⟩, ⟨.loadSend 64, .zero⟩, ⟨.sys (.newBuffer 5), .ok (Block.fresh 9 5)⟩,
   ⟨.storeSend 64 (twoMessagesSend fun _ ↦ 0), ()⟩, ⟨.loadSend 64, twoMessagesSend fun _ ↦ 0⟩,
   ⟨.storeSend 64 (twoMessagesSend mem₁), ()⟩, ⟨.loadSend 64, twoMessagesSend mem₁⟩,
   ⟨.sys (.send 7 [1, 0, 0, 0, 1]), .ok n⟩, ⟨.mutexUnlock 64, ()⟩,
   ⟨.mutexLock 64, true⟩, ⟨.loadSend 64, twoMessagesSend mem₁⟩,
   ⟨.loadSend 64, twoMessagesSend mem₁⟩,
   ⟨.storeSend 64 (twoMessagesSend mem₂), ()⟩, ⟨.loadSend 64, twoMessagesSend mem₂⟩,
   ⟨.sys (.send 7 [1, 0, 0, 0, 2]), .ok k⟩, ⟨.mutexUnlock 64, ()⟩]

private theorem exec_twoSends (n k : {n : Nat // n ≤ 5}) (t : Thread Unit) :
    Exec (sendAll twoMessages) t (twoSends n k) [(n.val : Int), (k.val : Int)] t := by
  refine ⟨_, _, rfl, _, _, rfl, _, _, rfl, _, _, rfl, _, _, rfl, _, _, rfl, _, _, rfl, ?_⟩
  refine ⟨_, _, rfl, _, _, rfl, _, _, rfl, _, _, rfl, _, _, rfl, _, _, rfl, _, _, rfl, ?_⟩
  exact ⟨_, _, rfl, _, _, rfl, rfl, rfl⟩

private theorem accepts_twoSends (n k : {n : Nat // n ≤ 5}) :
    ∃ s', (sendKernel 64).Accepts .zero (twoSends n k) s' := by
  simp [twoSends, sendKernel, sendAccessOf]

/-- Taken whole, the two frames stand untorn on the stream. -/
theorem tcp_stream_untorn_whole :
    Untorn (writes 7 (twoSends ⟨5, by simp⟩ ⟨5, by simp⟩)) := by
  obtain ⟨s', ha⟩ := accepts_twoSends ⟨5, by simp⟩ ⟨5, by simp⟩
  have haddr : ∀ q ∈ twoMessages, q.infos.send = 64 := by simp [twoMessages]
  have h := exec_twoSends ⟨5, by simp⟩ ⟨5, by simp⟩ ⟨.other 0, ()⟩
  rw [tcp_stream_untorn_iff haddr h ha]
  exact List.pairwise_pair.mpr fun hcut ↦ absurd hcut.2 (by decide)

/-- When three bytes of the first frame are taken and then all of the second, the second frame
starts inside the first. -/
theorem tcp_stream_torn_by_cut :
    (∃ t', Exec (sendAll twoMessages) (⟨.other 0, ()⟩ : Thread Unit)
      (twoSends ⟨3, by simp⟩ ⟨5, by simp⟩) [3, 5] t') ∧
    (∃ s', (sendKernel 64).Accepts .zero (twoSends ⟨3, by simp⟩ ⟨5, by simp⟩) s') ∧
    stream (writes 7 (twoSends ⟨3, by simp⟩ ⟨5, by simp⟩)) = [1, 0, 0, 1, 0, 0, 0, 2] ∧
    ¬ Untorn (writes 7 (twoSends ⟨3, by simp⟩ ⟨5, by simp⟩)) := by
  refine ⟨⟨_, exec_twoSends _ _ _⟩, accepts_twoSends _ _, rfl, ?_⟩
  intro hu
  have hwhole : Bytes.Whole [1, 0, 0] :=
    hu.ordered [⟨7, [1, 0, 0, 0, 1], 3⟩] ⟨7, [1, 0, 0, 0, 2], 5⟩ [] rfl (by decide)
  have hpart : Bytes.Incomplete [1, 0, 0] :=
    ⟨[1], by simp [Bytes.Framable], ⟨[0, 1], rfl⟩, by simp⟩
  exact Bytes.whole_nil.not_whole_append hpart (by simp) hwhole

end Udtcp
