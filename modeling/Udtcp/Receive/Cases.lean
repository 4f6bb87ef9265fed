import Udtcp.Receive.Reception

/-!
# What one step of a reception can do

Each building block of the receivers, taken apart once: its trace, its result and the
buffer it leaves.
-/

namespace Udtcp

open Interaction Routine

/-- The `int` a size becomes. -/
theorem cInt_eq {n : Nat} (h : n < 2 ^ 32) :
    cInt n = if n < 2 ^ 31 then (n : Int) else n - 2 ^ 32 := by
  have hmod : (n : Int) % ((2 ^ 32 : Nat) : Int) = n := Int.emod_eq_of_lt (by omega) (by omega)
  unfold cInt
  rw [Int.bmod_def]
  rw [hmod]
  split
  · rw [if_pos (by omega)]
  · rw [if_neg (by omega)]
    rfl

/-- It is positive when the size is not zero and its top bit is clear. -/
theorem cInt_pos_iff {n : Nat} (h : n < 2 ^ 32) : 0 < cInt n ↔ 1 ≤ n ∧ n < 2 ^ 31 := by
  rw [cInt_eq h]
  split <;> omega

variable {τ : Type} {t t' : Thread ReceiveBuffer} {tr : Trace posix} {fd : Fd}

/-- The calls that give back the old block of a buffer. -/
def ReceiveBuffer.release (b : ReceiveBuffer) : Trace posix :=
  match b.bufferData with
  | some old => [⟨.freeBuffer old.ptr, ()⟩]
  | none => []

/-- Releasing a buffer frees its block. -/
theorem ReceiveBuffer.mem_release {b : ReceiveBuffer} {e : Event posix} (h : e ∈ b.release) :
    ∃ ptr r, e = ⟨.freeBuffer ptr, r⟩ := by
  unfold release at h
  split at h
  · next old _ => exact ⟨old.ptr, (), List.mem_singleton.mp h⟩
  · cases h

/-- A run of the wait for input. -/
theorem exec_pollIn {t t' : Thread τ} {n : Int} :
    Exec (pollIn fd) t tr n t' ↔
      ∃ reply, tr = [⟨.sys (.poll [⟨fd, POLLIN, 0⟩] (-1)), reply⟩] ∧ n = pollCount reply ∧
        t' = t.note reply := by
  simp only [pollIn, exec_syscall_bind, exec_pure]
  constructor
  · rintro ⟨r, rest, rfl, rfl, rfl, rfl⟩
    exact ⟨r, rfl, rfl, rfl⟩
  · rintro ⟨r, rfl, rfl, rfl⟩
    exact ⟨r, [], rfl, rfl, rfl, rfl⟩

/-- A buffer grows by one allocation, or stays as it is. -/
theorem exec_growBuffer {need : Nat} {ok : Bool} :
    Exec (growBuffer need) t tr ok t' ↔
      (need ≤ t.self.bufferSize ∧ tr = [] ∧ ok = true ∧ t' = t) ∨
      (t.self.bufferSize < need ∧ ∃ e, tr = [⟨.sys (.newBuffer (need % 2 ^ 32)), .error e⟩] ∧
        ok = false ∧ t' = { t with errno := e }) ∨
      (t.self.bufferSize < need ∧ ∃ block : {b : Block // b.cap = need % 2 ^ 32},
        tr = ⟨.sys (.newBuffer (need % 2 ^ 32)), .ok block⟩ :: t.self.release ∧ ok = true ∧
        t' = { t with self := ⟨some block.val, need⟩ }) := by
  simp only [growBuffer, exec_self_bind, exec_ite, exec_syscall_bind, exec_pure]
  by_cases h : t.self.bufferSize < need
  · simp only [h, if_true, true_and, Nat.not_le.mpr h, false_and, false_or]
    constructor
    · rintro ⟨r, rest, rfl, hr⟩
      cases r with
      | error e =>
        obtain ⟨rfl, rfl, rfl⟩ := exec_pure.mp hr
        exact .inl ⟨e, rfl, rfl, rfl⟩
      | ok block =>
        refine .inr ⟨block, ?_⟩
        simp only [exec_self_bind] at hr
        unfold ReceiveBuffer.release
        cases hd : t.self.bufferData with
        | none =>
          simp only [Thread.note_self, hd, exec_update_bind, exec_pure] at hr
          obtain ⟨rfl, rfl, rfl⟩ := hr
          exact ⟨rfl, rfl, rfl⟩
        | some old =>
          simp only [Thread.note_self, hd, exec_issue_bind, exec_update_bind, exec_pure] at hr
          obtain ⟨_, _, rfl, rfl, rfl, rfl⟩ := hr
          exact ⟨rfl, rfl, rfl⟩
    · rintro (⟨e, rfl, rfl, rfl⟩ | ⟨block, rfl, rfl, rfl⟩)
      · exact ⟨.error e, [], rfl, exec_pure.mpr ⟨rfl, rfl, rfl⟩⟩
      · refine ⟨.ok block, _, rfl, ?_⟩
        unfold ReceiveBuffer.release
        rw [exec_self_bind, Thread.note_self]
        cases t.self.bufferData with
        | none => exact exec_update_bind.mpr (exec_pure.mpr ⟨rfl, rfl, rfl⟩)
        | some old =>
          exact exec_issue_bind.mpr
            ⟨(), [], rfl, exec_update_bind.mpr (exec_pure.mpr ⟨rfl, rfl, rfl⟩)⟩
  · simp only [h, if_false, false_and, or_false, Nat.not_lt.mp h, true_and]

/-- A run of a reception into the buffer. -/
theorem exec_recvBuffer {offset len : Nat} {n : Int} :
    Exec (recvBuffer fd offset len) t tr n t' ↔
      (∃ e, tr = [⟨.sys (.recv fd (t.self.target offset) len), .error e⟩] ∧ n = -1 ∧
        t' = { t with errno := e }) ∨
      (∃ bs : {bs : List UInt8 // bs.length ≤ len},
        tr = [⟨.sys (.recv fd (t.self.target offset) len), .ok bs⟩] ∧ n = bs.val.length ∧
        t' = { t with self := t.self.fill offset bs.val }) := by
  simp only [recvBuffer, exec_self_bind, exec_syscall_bind]
  constructor
  · rintro ⟨r, rest, rfl, hr⟩
    cases r with
    | error e =>
      obtain ⟨rfl, rfl, rfl⟩ := exec_pure.mp hr
      exact .inl ⟨e, rfl, rfl, rfl⟩
    | ok bs =>
      simp only [exec_update_bind, exec_pure] at hr
      obtain ⟨rfl, rfl, rfl⟩ := hr
      exact .inr ⟨bs, rfl, rfl, rfl⟩
  · rintro (⟨e, rfl, rfl, rfl⟩ | ⟨bs, rfl, rfl, rfl⟩)
    · exact ⟨.error e, [], rfl, exec_pure.mpr ⟨rfl, rfl, rfl⟩⟩
    · refine ⟨.ok bs, [], rfl, ?_⟩
      exact exec_update_bind.mpr (exec_pure.mpr ⟨rfl, rfl, rfl⟩)

/-- One round of the reassembly loop, with bytes still missing. -/
theorem exec_reassemble {dataSize rounds have₀ : Nat} {r : Option Int} (h : have₀ ≠ dataSize) :
    Exec (reassemble fd dataSize (rounds + 1) have₀) t tr r t' ↔
      ∃ reply rest, tr = ⟨.sys (.poll [⟨fd, POLLIN, 0⟩] (-1)), reply⟩ :: rest ∧
        ((pollCount reply ≤ 0 ∧ rest = [] ∧ r = some (-1) ∧ t' = t.note reply) ∨
        (0 < pollCount reply ∧ ∃ tr₁ n t₁ tr₂, rest = tr₁ ++ tr₂ ∧
          Exec (recvBuffer fd have₀ (dataSize - have₀)) (t.note reply) tr₁ n t₁ ∧
          ((n < 0 ∧ tr₂ = [] ∧ r = some (-1) ∧ t' = t₁) ∨
          (n = 0 ∧ tr₂ = [] ∧ r = some 0 ∧ t' = t₁) ∨
          (0 < n ∧ Exec (reassemble fd dataSize rounds (have₀ + n.toNat)) t₁ tr₂ r t')))) := by
  simp only [reassemble, h, if_false, exec_bind, exec_pollIn, exec_ite, exec_pure]
  constructor
  · rintro ⟨_, n, _, tr₂, rfl, ⟨reply, rfl, rfl, rfl⟩, hr⟩
    refine ⟨reply, tr₂, rfl, ?_⟩
    split at hr
    · next hn => exact .inl ⟨hn, hr.1, hr.2.1, hr.2.2⟩
    · next hn =>
      refine .inr ⟨Int.not_le.mp hn, ?_⟩
      obtain ⟨tr₁, k, t₁, tr₃, rfl, hk, hr⟩ := hr
      refine ⟨tr₁, k, t₁, tr₃, rfl, hk, ?_⟩
      split at hr
      · next h₁ => exact .inl ⟨h₁, hr⟩
      · next h₁ =>
        split at hr
        · next h₂ => exact .inr (.inl ⟨h₂, hr⟩)
        · next h₂ => exact .inr (.inr ⟨by omega, hr⟩)
  · rintro ⟨reply, rest, rfl, hr⟩
    refine ⟨[_], pollCount reply, t.note reply, rest, rfl, ⟨reply, rfl, rfl, rfl⟩, ?_⟩
    rcases hr with ⟨hn, rfl, rfl, rfl⟩ | ⟨hn, tr₁, k, t₁, tr₂, rfl, hk, hr⟩
    · simp [hn]
    · rw [if_neg (Int.not_le.mpr hn)]
      refine ⟨tr₁, k, t₁, tr₂, rfl, hk, ?_⟩
      rcases hr with ⟨h₁, rfl, rfl, rfl⟩ | ⟨rfl, rfl, rfl, rfl⟩ | ⟨h₁, hr⟩
      · simp [h₁]
      · simp
      · rw [if_neg (by omega), if_neg (by omega)]
        exact hr

/-- The reassembly loop ends when all bytes are there. -/
theorem exec_reassemble_done {dataSize rounds : Nat} {r : Option Int} :
    Exec (reassemble fd dataSize rounds dataSize) t tr r t' ↔ tr = [] ∧ r = none ∧ t' = t := by
  cases rounds with
  | zero => simp [reassemble]
  | succ rounds => simp [reassemble]

/-- A run of the TCP receiver: the size could not be read in full, or no buffer could be had
for it, or the payload is received. -/
theorem exec_receiveTcpWith {deliver : Option (List UInt8 → Callback)} {success : Nat → Int}
    {n : Int} (h : Exec (receiveTcpWith fd deliver success) t tr n t') :
    ∃ size rest, tr = ⟨.sys (.recv fd .word 4), size⟩ :: rest ∧
      ((∃ e, size = .error e ∧ rest = [] ∧ n = -1 ∧ t' = { t with errno := e }) ∨
      (∃ bs, size = .ok bs ∧ bs.val.length ≠ 4 ∧ rest = [] ∧
        n = (if bs.val.length = 0 then 0 else -1) ∧ t' = t) ∨
      (∃ bs, size = .ok bs ∧ bs.val.length = 4 ∧
        Exec (growBuffer (Bytes.leNat bs.val)) t rest false t' ∧ n = -1) ∨
      (∃ bs tr₁ t₁ tr₂, size = .ok bs ∧ bs.val.length = 4 ∧ rest = tr₁ ++ tr₂ ∧
        Exec (growBuffer (Bytes.leNat bs.val)) t tr₁ true t₁ ∧
        Exec (receivePayload fd deliver success (Bytes.leNat bs.val)) t₁ tr₂ n t')) := by
  simp only [receiveTcpWith, exec_syscall_bind] at h
  obtain ⟨size, rest, rfl, h⟩ := h
  refine ⟨size, rest, rfl, ?_⟩
  cases size with
  | error e => exact .inl ⟨e, rfl, exec_pure.mp h⟩
  | ok bs =>
    apply Or.inr
    simp only [exec_ite, exec_pure, exec_bind, Thread.note_ok] at h
    split at h
    · next h₀ => exact .inl ⟨bs, rfl, by omega, h.1, by rw [if_pos h₀, h.2.1], h.2.2⟩
    · next h₀ =>
      split at h
      · next h₄ => exact .inl ⟨bs, rfl, h₄, h.1, by rw [if_neg h₀, h.2.1], h.2.2⟩
      · next h₄ =>
        obtain ⟨tr₁, ok, t₁, tr₂, rfl, hg, h⟩ := h
        cases ok with
        | false =>
          obtain ⟨rfl, rfl, rfl⟩ := h
          rw [List.append_nil]
          exact .inr (.inl ⟨bs, rfl, by omega, hg, rfl⟩)
        | true => exact .inr (.inr ⟨bs, tr₁, t₁, tr₂, rfl, by omega, rfl, hg, h⟩)

/-- A run of the UDP receiver: the datagram shows no complete size, or no buffer could be had
for it, or the datagram is taken. -/
theorem exec_receiveUdpWith {route : Route} {success : Nat → Int} {n : Int}
    (h : Exec (receiveUdpWith fd route success) t tr n t') :
    ∃ size rest, tr = ⟨.sys (.recvfrom fd .word 4 true), size⟩ :: rest ∧
      ((∃ e, size = .error e ∧ rest = [] ∧ n = -1 ∧ t' = { t with errno := e }) ∨
      (∃ bs addr, size = .ok (bs, addr) ∧ bs.val.length ≠ 4 ∧ rest = [] ∧
        n = (if bs.val.length = 0 then 0 else -1) ∧ t' = t) ∨
      (∃ bs addr, size = .ok (bs, addr) ∧ bs.val.length = 4 ∧
        Exec (growBuffer (4 + Bytes.leNat bs.val)) t rest false t' ∧ n = -1) ∨
      (∃ bs addr tr₁ t₁ tr₂, size = .ok (bs, addr) ∧ bs.val.length = 4 ∧ rest = tr₁ ++ tr₂ ∧
        Exec (growBuffer (4 + Bytes.leNat bs.val)) t tr₁ true t₁ ∧
        Exec (takeDatagram fd route success (Bytes.leNat bs.val)) t₁ tr₂ n t')) := by
  simp only [receiveUdpWith, exec_syscall_bind] at h
  obtain ⟨size, rest, rfl, h⟩ := h
  refine ⟨size, rest, rfl, ?_⟩
  cases size with
  | error e => exact .inl ⟨e, rfl, exec_pure.mp h⟩
  | ok r =>
    obtain ⟨bs, addr⟩ := r
    apply Or.inr
    simp only [exec_ite, exec_pure, exec_bind] at h
    split at h
    · next h₀ => exact .inl ⟨bs, addr, rfl, by omega, h.1, by rw [if_pos h₀, h.2.1], h.2.2⟩
    · next h₀ =>
      split at h
      · next h₄ => exact .inl ⟨bs, addr, rfl, h₄, h.1, by rw [if_neg h₀, h.2.1], h.2.2⟩
      · next h₄ =>
        obtain ⟨tr₁, ok, t₁, tr₂, rfl, hg, h⟩ := h
        cases ok with
        | false =>
          obtain ⟨rfl, rfl, rfl⟩ := h
          rw [List.append_nil]
          exact .inr (.inl ⟨bs, addr, rfl, by omega, hg, rfl⟩)
        | true => exact .inr (.inr ⟨bs, addr, tr₁, t₁, tr₂, rfl, by omega, rfl, hg, h⟩)

/-- Handing a complete message over. -/
def delivery (deliver : Option (List UInt8 → Callback)) (data : List UInt8) (tr : Trace posix) :
    Prop :=
  match deliver with
  | some f => ∃ u, tr = [⟨.callback (f data), u⟩]
  | none => tr = []

/-- Taking a datagram is one `recvfrom`; what came is refused, or handed over. -/
theorem exec_takeDatagram_cases {route : Route} {success : Nat → Int} {dataSize : Nat} {n : Int}
    (h : Exec (takeDatagram fd route success dataSize) t tr n t') :
    ∃ r rest, tr = ⟨.sys (.recvfrom fd (t.self.target 0) (4 + dataSize) false), r⟩ :: rest ∧
      ((∃ e, r = .error e ∧ rest = [] ∧ n = -1 ∧ t' = { t with errno := e }) ∨
      ∃ bs addr, r = .ok (bs, addr) ∧ t' = { t with self := t.self.fill 0 bs.val } ∧
        ((rest = [] ∧ n = (if cInt bs.val.length = 0 then 0 else -1) ∧
          (0 < cInt bs.val.length → (cInt bs.val.length - 4) % 2 ^ 64 = dataSize →
            route addr = none)) ∨
        (0 < cInt bs.val.length ∧ (cInt bs.val.length - 4) % 2 ^ 64 = dataSize ∧
          n = success dataSize ∧ ∃ deliver, route addr = some deliver ∧
            delivery deliver (t'.self.bytes 4 dataSize) rest))) := by
  simp only [takeDatagram, exec_self_bind, exec_syscall_bind] at h
  obtain ⟨r, rest, rfl, h⟩ := h
  refine ⟨r, rest, rfl, ?_⟩
  cases r with
  | error e =>
    obtain ⟨rfl, rfl, rfl⟩ := exec_pure.mp h
    exact .inl ⟨e, rfl, rfl, rfl, rfl⟩
  | ok r =>
    obtain ⟨bs, addr⟩ := r
    simp only [exec_update_bind, exec_ite, exec_pure] at h
    split at h
    · next hneg =>
      obtain ⟨rfl, rfl, rfl⟩ := h
      refine .inr ⟨bs, addr, rfl, rfl, .inl ⟨rfl, ?_, fun hpos ↦ ?_⟩⟩
      · rw [if_neg (by omega)]
      · omega
    split at h
    · next hzero =>
      obtain ⟨rfl, rfl, rfl⟩ := h
      refine .inr ⟨bs, addr, rfl, rfl, .inl ⟨rfl, ?_, fun hpos ↦ ?_⟩⟩
      · rw [if_pos hzero]
      · omega
    split at h
    · next hzero hsize =>
      obtain ⟨rfl, rfl, rfl⟩ := h
      exact .inr ⟨bs, addr, rfl, rfl, .inl ⟨rfl, by rw [if_neg hzero],
        fun _ heq ↦ absurd heq hsize⟩⟩
    · next hneg hzero hsize =>
      have hpos : 0 < cInt bs.val.length := by omega
      have heq : (cInt bs.val.length - 4) % 2 ^ 64 = dataSize := not_not.mp hsize
      split at h
      · next hroute =>
        obtain ⟨rfl, rfl, rfl⟩ := exec_pure.mp h
        exact .inr ⟨bs, addr, rfl, rfl, .inl ⟨rfl, by rw [if_neg hzero], fun _ _ ↦ hroute⟩⟩
      · next deliver hroute =>
        cases deliver with
        | none =>
          obtain ⟨rfl, rfl, rfl⟩ := exec_pure.mp h
          exact .inr ⟨bs, addr, rfl, rfl, .inr ⟨hpos, heq, rfl, none, hroute, rfl⟩⟩
        | some f =>
          simp only [exec_self_bind, exec_issue_bind, exec_pure] at h
          obtain ⟨u, _, rfl, rfl, rfl, rfl⟩ := h
          exact .inr ⟨bs, addr, rfl, rfl, .inr ⟨hpos, heq, rfl, some f, hroute, u, rfl⟩⟩

/-- Taking a datagram is one `recvfrom`, then at most a callback; only the contents of the
buffer change. -/
theorem exec_takeDatagram {route : Route} {success : Nat → Int} {dataSize : Nat} {n : Int}
    (h : Exec (takeDatagram fd route success dataSize) t tr n t') :
    ∃ r rest, tr = ⟨.sys (.recvfrom fd (t.self.target 0) (4 + dataSize) false), r⟩ :: rest ∧
      (∀ e ∈ rest, ∃ c u, e = ⟨.callback c, u⟩) ∧
      ((∃ e, r = .error e ∧ rest = [] ∧ n = -1 ∧ t' = { t with errno := e }) ∨
      ∃ bs addr, r = .ok (bs, addr) ∧ t' = { t with self := t.self.fill 0 bs.val }) := by
  obtain ⟨r, rest, rfl, ⟨e, rfl, rfl, rfl, rfl⟩ | ⟨bs, addr, rfl, rfl, hend⟩⟩ :=
    exec_takeDatagram_cases h
  · exact ⟨_, _, rfl, by simp, .inl ⟨e, rfl, rfl, rfl, rfl⟩⟩
  refine ⟨_, rest, rfl, fun e he ↦ ?_, .inr ⟨bs, addr, rfl, rfl⟩⟩
  rcases hend with ⟨rfl, -⟩ | ⟨-, -, -, deliver, -, hdeliver⟩
  · cases he
  · cases deliver with
    | none =>
      have hnil : rest = [] := hdeliver
      rw [hnil] at he
      cases he
    | some f =>
      obtain ⟨u, rfl⟩ := hdeliver
      exact ⟨_, u, List.mem_singleton.mp he⟩

/-- Receiving a payload: the first reception, the reassembly loop, the delivery. -/
theorem exec_receivePayload {deliver : Option (List UInt8 → Callback)} {success : Nat → Int}
    {dataSize : Nat} {n : Int} (h : Exec (receivePayload fd deliver success dataSize) t tr n t') :
    ∃ tr₁ k t₁ rest, tr = tr₁ ++ rest ∧ Exec (recvBuffer fd 0 dataSize) t tr₁ k t₁ ∧
      ((k ≤ 0 ∧ rest = [] ∧ n = (if k < 0 then -1 else 0) ∧ t' = t₁) ∨
      (0 < k ∧ ∃ tr₂ r t₂ tr₃, rest = tr₂ ++ tr₃ ∧
        Exec (reassemble fd dataSize dataSize k.toNat) t₁ tr₂ r t₂ ∧ t' = t₂ ∧
        ((r = some n ∧ tr₃ = []) ∨
        (r = none ∧ n = success dataSize ∧ delivery deliver (t₂.self.bytes 0 dataSize) tr₃)))) := by
  unfold receivePayload at h
  obtain ⟨tr₁, k, t₁, rest, rfl, hk, hrest⟩ := exec_bind.mp h
  refine ⟨tr₁, k, t₁, rest, rfl, hk, ?_⟩
  simp only [exec_ite] at hrest
  split at hrest
  · next hneg =>
    obtain ⟨rfl, rfl, rfl⟩ := exec_pure.mp hrest
    exact .inl ⟨by omega, rfl, by rw [if_pos hneg], rfl⟩
  split at hrest
  · next hneg hzero =>
    obtain ⟨rfl, rfl, rfl⟩ := exec_pure.mp hrest
    exact .inl ⟨by omega, rfl, by rw [if_neg hneg], rfl⟩
  · next hneg hzero =>
    obtain ⟨tr₂, r, t₂, tr₃, rfl, hr, hend⟩ := exec_bind.mp hrest
    refine .inr ⟨by omega, tr₂, r, t₂, tr₃, rfl, hr, ?_⟩
    cases r with
    | some r =>
      obtain ⟨rfl, rfl, rfl⟩ := exec_pure.mp hend
      exact ⟨rfl, .inl ⟨rfl, rfl⟩⟩
    | none =>
      cases deliver with
      | none =>
        obtain ⟨rfl, rfl, rfl⟩ := exec_pure.mp hend
        exact ⟨rfl, .inr ⟨rfl, rfl, rfl⟩⟩
      | some f =>
        simp only [exec_self_bind, exec_issue_bind, exec_pure] at hend
        obtain ⟨u, _, rfl, rfl, rfl, rfl⟩ := hend
        exact ⟨rfl, .inr ⟨rfl, rfl, u, rfl⟩⟩

end Udtcp
