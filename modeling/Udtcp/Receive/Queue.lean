import Udtcp.Posix.Observe
import Udtcp.Receive.Cases
import Udtcp.Receive.Roles
import Udtcp.Server.Create

/-!
# The datagram queue

The kernel queue of a UDP socket as a list of datagrams, and what one call of the two
`receive_udp` functions takes from it. A call peeks before it consumes; a datagram shorter
than its size field, and one no buffer could be allocated for, is left at the head of the
queue.
-/

namespace Udtcp

open Interaction Routine

/-- A datagram in the queue of a socket. -/
structure Datagram where
  source : SockaddrIn
  bytes : List UInt8
  deriving DecidableEq, Repr

/-- A datagram long enough to hold the size field. -/
def Datagram.HasSize (d : Datagram) : Prop := 4 ≤ d.bytes.length

/-- The kernel side of socket `sock`: a peek shows a prefix of the head, a plain `recvfrom`
removes the head, and an empty queue blocks. Nothing is said about other calls. -/
def queueKernel (sock : Fd) : Kernel posix (List Datagram) := fun q c r q' ↦
  match receptionOf c r with
  | none => q' = q
  | some rec =>
    if rec.fd = sock then
      match q with
      | [] => rec.result = .error .ewouldblock ∧ q' = []
      | d :: rest => rec.result = .ok (d.bytes.take rec.len, d.source) ∧
          q' = if rec.peek then d :: rest else rest
    else q' = q

/-- What one call does to the queue `q`: it removes the head, unless that is shorter than its
size field or an allocation failed. -/
def DequeueStep (tr : Trace posix) (q q' : List Datagram) : Prop :=
  match q with
  | [] => q' = []
  | d :: rest => (d.HasSize ∧ AllocationsSucceed tr ∧ q' = rest) ∨
      (¬ (d.HasSize ∧ AllocationsSucceed tr) ∧ q' = d :: rest)

/-- `receive` works on the socket `sock`, keeps it, and takes one step on its queue. -/
def Dequeues {τ : Type} (sock : τ → Fd) (receive : Proc τ Int) : Prop :=
  ∀ ⦃t tr n t'⦄, Exec receive t tr n t' → sock t'.self = sock t.self ∧
    ∀ q q', (queueKernel (sock t.self)).Accepts q tr q' → DequeueStep tr q q'

/-- `n` calls of a receiver, one after the other. -/
def calls {τ : Type} (receive : Proc τ Int) : Nat → Proc τ Unit
  | 0 => pure ()
  | n + 1 => do
    let _ ← receive
    calls receive n

section

variable {fd : Fd} {route : Route} {success : Nat → Int} {dataSize : Nat} {n : Int}
  {t t' : Thread ReceiveBuffer} {tr : Trace posix}

/-- Calls that are not datagram receptions leave the queue alone. -/
theorem queueKernel_accepts_of_ne {sock : Fd} {tr : Trace posix} {q q' : List Datagram}
    (h : (queueKernel sock).Accepts q tr q') (hne : ∀ e ∈ tr, receptionOf e.call e.reply = none) :
    q' = q := by
  apply h.invariant (I := fun k ↦ k = q) _ rfl
  intro e he k₁ k₂ hk hs
  rw [queueKernel, hne e he] at hs
  exact hs.trans hk

private theorem takeDatagram_dequeues {d : Datagram} {q q' : List Datagram}
    (h : Exec (takeDatagram fd route success dataSize) t tr n t')
    (ha : (queueKernel fd).Accepts (d :: q) tr q') : q' = q ∧ AllocationsSucceed tr := by
  obtain ⟨r, rest, rfl, hrest, hr⟩ := exec_takeDatagram h
  obtain ⟨q₁, hq, ha⟩ := ha
  have hq₁ : q₁ = q := by
    cases r with
    | error e => simp [queueKernel, receptionOf] at hq
    | ok r => exact (by simpa [queueKernel, receptionOf] using hq : _ ∧ q₁ = q).2
  have hne : ∀ e ∈ rest, receptionOf e.call e.reply = none ∧ ¬ AllocationFailed e := by
    intro e he
    obtain ⟨c, u, rfl⟩ := hrest e he
    exact ⟨rfl, by simp [AllocationFailed]⟩
  constructor
  · rw [queueKernel_accepts_of_ne ha fun e he ↦ (hne e he).1, hq₁]
  · rw [allocationsSucceed_cons]
    exact ⟨by cases r <;> simp [AllocationFailed], fun e he ↦ (hne e he).2⟩

/-- Growing the buffer does not touch the queue, and fails when its allocation does. -/
theorem growBuffer_dequeues {need : Nat} {ok : Bool} {q q' : List Datagram} {sock : Fd}
    (h : Exec (growBuffer need) t tr ok t') (ha : (queueKernel sock).Accepts q tr q') :
    q' = q ∧ (AllocationsSucceed tr ↔ ok = true) := by
  rcases exec_growBuffer.mp h with ⟨-, rfl, rfl, -⟩ | ⟨-, e, rfl, rfl, -⟩ | ⟨-, block, rfl, rfl, -⟩
  · exact ⟨ha, by simp⟩
  · exact ⟨queueKernel_accepts_of_ne ha (by simp [receptionOf]), by simp [AllocationFailed]⟩
  · have hrel : ∀ e ∈ t.self.release, receptionOf e.call e.reply = none ∧ ¬ AllocationFailed e := by
      intro e he
      obtain ⟨ptr, u, rfl⟩ := ReceiveBuffer.mem_release he
      exact ⟨rfl, by simp [AllocationFailed]⟩
    constructor
    · apply queueKernel_accepts_of_ne ha
      intro e he
      rcases List.mem_cons.mp he with rfl | he
      · rfl
      · exact (hrel e he).1
    · rw [allocationsSucceed_cons]
      have hb : AllocationsSucceed t.self.release := fun e he ↦ (hrel e he).2
      simp [AllocationFailed, hb]

/-- **One reception.** What a call of `receive_udp` does to the queue of its socket. -/
theorem receiveUdpWith_dequeues {q q' : List Datagram}
    (h : Exec (receiveUdpWith fd route success) t tr n t')
    (ha : (queueKernel fd).Accepts q tr q') : DequeueStep tr q q' := by
  obtain ⟨size, rest, rfl, hcases⟩ := exec_receiveUdpWith h
  obtain ⟨q₁, hq, ha⟩ := ha
  cases q with
  | nil =>
    -- the peek blocks, and nothing follows
    cases size with
    | ok r => simp [queueKernel, receptionOf] at hq
    | error e =>
      have hq₁ : q₁ = [] := (by simpa [queueKernel, receptionOf] using hq : _ ∧ q₁ = []).2
      rcases hcases with ⟨_, -, hrest, -⟩ | ⟨_, _, he, -⟩ | ⟨_, _, he, -⟩ | ⟨_, _, _, _, _, he, -⟩
      · rw [hrest, hq₁] at ha
        exact ha
      all_goals cases he
  | cons d q =>
    cases size with
    | error e => simp [queueKernel, receptionOf] at hq
    | ok r =>
      obtain ⟨⟨bs, hbs⟩, addr⟩ := r
      obtain ⟨⟨hd, rfl⟩, rfl⟩ : (bs = d.bytes.take 4 ∧ addr = d.source) ∧ q₁ = d :: q := by
        simpa [queueKernel, receptionOf] using hq
      have hlen : bs.length = 4 ↔ d.HasSize := by
        rw [hd, List.length_take, Datagram.HasSize]
        omega
      simp only [DequeueStep, allocationsSucceed_cons, ← hlen]
      rcases hcases with ⟨_, he, -⟩ | ⟨_, _, he, h₄, rfl, -⟩ | ⟨_, _, he, h₄, hg, -⟩ |
        ⟨_, _, tr₁, t₁, tr₂, he, h₄, rfl, hg, ht⟩
      · cases he
      · cases he
        exact .inr ⟨fun hc ↦ h₄ hc.1, ha⟩
      · cases he
        obtain ⟨rfl, hf⟩ := growBuffer_dequeues hg ha
        refine .inr ⟨fun hc ↦ ?_, rfl⟩
        exact Bool.false_ne_true (hf.mp hc.2.2)
      · cases he
        obtain ⟨q₂, hg', ht'⟩ := (Kernel.accepts_append _).mp ha
        obtain ⟨rfl, hf⟩ := growBuffer_dequeues hg hg'
        obtain ⟨rfl, ha'⟩ := takeDatagram_dequeues ht ht'
        refine .inl ⟨h₄, ⟨by simp [AllocationFailed], ?_⟩, rfl⟩
        exact allocationsSucceed_append.mpr ⟨hf.mpr rfl, ha'⟩

end

/-- The server's receiver works on the queue of `udp_server_socket`. -/
theorem receiveUdp_dequeues {m : Nat} :
    Dequeues (fun s : UdtcpServer m ↦ s.serverInfos.udpServerSocket) receiveUdp := by
  intro t tr n t' h
  obtain ⟨u, hu, rfl⟩ := exec_receiveUdp.mp h
  exact ⟨rfl, fun q q' ha ↦ receiveUdpWith_dequeues hu ha⟩

/-- The client's receiver works on the queue of its `udp_server_socket`. -/
theorem Client.receiveUdp_dequeues :
    Dequeues (fun c : UdtcpClient ↦ c.clientInfos.udpServerSocket) Client.receiveUdp := by
  intro t tr n t' h
  obtain ⟨u, hu, rfl⟩ := Client.exec_receiveUdp.mp h
  exact ⟨rfl, fun q q' ha ↦ receiveUdpWith_dequeues hu ha⟩

section

variable {τ : Type} {sock : τ → Fd} {receive : Proc τ Int} {n : Nat} {t t' : Thread τ}
  {tr : Trace posix} {u : Unit}

/-- Calls only ever take from the front, at most one datagram each. -/
theorem Dequeues.calls_drop (hd : Dequeues sock receive) {q q' : List Datagram}
    (h : Exec (calls receive n) t tr u t') (ha : (queueKernel (sock t.self)).Accepts q tr q') :
    ∃ k ≤ n, q' = q.drop k := by
  induction n generalizing t tr q with
  | zero =>
    obtain ⟨rfl, -, -⟩ := exec_pure.mp h
    exact ⟨0, Nat.le_refl 0, ha⟩
  | succ n ih =>
    obtain ⟨tr₁, r, t₁, tr₂, rfl, h₁, h₂⟩ := exec_bind.mp h
    obtain ⟨q₁, ha₁, ha₂⟩ := (Kernel.accepts_append _).mp ha
    obtain ⟨hs, hstep⟩ := hd h₁
    rw [← hs] at ha₂
    obtain ⟨k, hk, rfl⟩ := ih h₂ ha₂
    have h₁ := hstep _ _ ha₁
    cases q with
    | nil =>
      obtain rfl : q₁ = [] := h₁
      exact ⟨0, Nat.zero_le _, by simp⟩
    | cons d q =>
      rcases h₁ with ⟨-, -, rfl⟩ | ⟨-, rfl⟩
      · exact ⟨k + 1, by omega, rfl⟩
      · exact ⟨k, by omega, rfl⟩

/-- **Reaching a datagram.** As many calls as there are datagrams in front of `q` reach it
exactly when all of these hold a size and no allocation fails. -/
theorem Dequeues.calls_reach_iff (hd : Dequeues sock receive) {ds q q' : List Datagram}
    (h : Exec (calls receive ds.length) t tr u t')
    (ha : (queueKernel (sock t.self)).Accepts (ds ++ q) tr q') :
    q' = q ↔ (∀ d ∈ ds, d.HasSize) ∧ AllocationsSucceed tr := by
  induction ds generalizing t tr with
  | nil =>
    obtain ⟨rfl, -, -⟩ := exec_pure.mp h
    have hq : q' = q := ha
    simp [hq]
  | cons d ds ih =>
    obtain ⟨tr₁, r, t₁, tr₂, rfl, h₁, h₂⟩ := exec_bind.mp h
    obtain ⟨q₁, ha₁, ha₂⟩ := (Kernel.accepts_append _).mp ha
    obtain ⟨hs, hstep⟩ := hd h₁
    rw [← hs] at ha₂
    rw [allocationsSucceed_append, List.forall_mem_cons]
    rcases hstep (d :: (ds ++ q)) _ ha₁ with ⟨hsize, halloc, rfl⟩ | ⟨hn, rfl⟩
    · rw [ih h₂ ha₂]
      simp [hsize, halloc]
    · -- the head is still there, and what is left of the calls cannot reach behind it
      obtain ⟨k, hk, rfl⟩ := hd.calls_drop h₂ ha₂
      constructor
      · intro he
        have hlen := congrArg List.length he
        simp only [List.length_drop, List.length_append, List.length_cons] at hlen
        omega
      · rintro ⟨⟨hsize, -⟩, halloc, -⟩
        exact absurd ⟨hsize, halloc⟩ hn

end

/-- **Progress of the UDP queue.** For the server and for the client: one call of `receive_udp`
removes the head of the queue, and `n` calls reach what lies behind `n` datagrams, exactly
when the datagrams concerned are at least four bytes long and every allocation succeeds. -/
theorem udp_queue_advances_iff (m : Nat) :
    (∀ (t t' : Thread (UdtcpServer m)) tr n d q q', Exec receiveUdp t tr n t' →
      (queueKernel t.self.serverInfos.udpServerSocket).Accepts (d :: q) tr q' →
      (q' = q ↔ d.HasSize ∧ AllocationsSucceed tr)) ∧
    (∀ (t t' : Thread (UdtcpServer m)) tr u ds q q', Exec (calls receiveUdp ds.length) t tr u t' →
      (queueKernel t.self.serverInfos.udpServerSocket).Accepts (ds ++ q) tr q' →
      (q' = q ↔ (∀ d ∈ ds, d.HasSize) ∧ AllocationsSucceed tr)) ∧
    (∀ (t t' : Thread UdtcpClient) tr n d q q', Exec Client.receiveUdp t tr n t' →
      (queueKernel t.self.clientInfos.udpServerSocket).Accepts (d :: q) tr q' →
      (q' = q ↔ d.HasSize ∧ AllocationsSucceed tr)) ∧
    (∀ (t t' : Thread UdtcpClient) tr u ds q q',
      Exec (calls Client.receiveUdp ds.length) t tr u t' →
      (queueKernel t.self.clientInfos.udpServerSocket).Accepts (ds ++ q) tr q' →
      (q' = q ↔ (∀ d ∈ ds, d.HasSize) ∧ AllocationsSucceed tr)) := by
  have one {τ : Type} {sock : τ → Fd} {receive : Proc τ Int} (hd : Dequeues sock receive)
      {t t' : Thread τ} {tr n d q q'} (h : Exec receive t tr n t')
      (ha : (queueKernel (sock t.self)).Accepts (d :: q) tr q') :
      q' = q ↔ d.HasSize ∧ AllocationsSucceed tr := by
    rcases (hd h).2 _ _ ha with ⟨hsize, halloc, rfl⟩ | ⟨hn, rfl⟩
    · simp [hsize, halloc]
    · simp [hn]
  refine ⟨fun t t' tr n d q q' h ha ↦ one receiveUdp_dequeues h ha,
    fun t t' tr u ds q q' h ha ↦ receiveUdp_dequeues.calls_reach_iff h ha,
    fun t t' tr n d q q' h ha ↦ one Client.receiveUdp_dequeues h ha,
    fun t t' tr u ds q q' h ha ↦ Client.receiveUdp_dequeues.calls_reach_iff h ha⟩

/-- An empty datagram stays at the head of the queue of a server. -/
theorem udp_queue_wedged_by_empty_datagram :
    Exec (receiveUdp (m := 1)) ⟨.other 0, .listening 3 4⟩
      [⟨.sys (.recvfrom 4 .word 4 true), .ok (⟨[], by simp⟩, .zero)⟩] 0
      ⟨.other 0, .listening 3 4⟩ ∧
    (queueKernel 4).Accepts [⟨.zero, []⟩]
      [⟨.sys (.recvfrom 4 .word 4 true), .ok (⟨[], by simp⟩, .zero)⟩] [⟨.zero, []⟩] := by
  constructor
  · exact ⟨_, _, rfl, rfl, rfl⟩
  · exact ⟨_, ⟨rfl, rfl⟩, rfl⟩

/-- A datagram with a one-byte message. -/
def oneByteDatagram : Datagram := ⟨.zero, [1, 0, 0, 0, 7]⟩

/-- How a server without a buffer takes it: peek, allocate, receive. -/
def oneByteReception : Trace posix :=
  [⟨.sys (.recvfrom 4 .word 4 true), .ok (allOf [1, 0, 0, 0], .zero)⟩,
   ⟨.sys (.newBuffer 5), .ok (Block.fresh 9 5)⟩,
   ⟨.sys (.recvfrom 4 (.buffer (some 9) 5 0) 5 false), .ok (allOf [1, 0, 0, 0, 7], .zero)⟩]

/-- It is removed from the queue. -/
theorem udp_queue_advances_over_message :
    (∃ t', Exec (receiveUdp (m := 1)) ⟨.other 0, .listening 3 4⟩ oneByteReception (-1) t') ∧
    (queueKernel 4).Accepts [oneByteDatagram] oneByteReception [] ∧
    oneByteDatagram.HasSize ∧ AllocationsSucceed oneByteReception := by
  have hrun : ∃ t', Exec (receiveUdp (m := 1)) ⟨.other 0, .listening 3 4⟩ oneByteReception (-1)
      t' := ⟨_, _, _, rfl, _, _, rfl, _, _, rfl, rfl, rfl⟩
  have hqueue : (queueKernel 4).Accepts [oneByteDatagram] oneByteReception [] :=
    ⟨_, ⟨rfl, rfl⟩, _, rfl, _, ⟨rfl, rfl⟩, rfl⟩
  refine ⟨hrun, hqueue, ?_⟩
  obtain ⟨t', h⟩ := hrun
  exact ((udp_queue_advances_iff 1).1 _ t' _ _ oneByteDatagram [] [] h hqueue).mp rfl

end Udtcp
