import Udtcp.Posix.Errno
import Udtcp.Receive.Roles
import Udtcp.Transfer.RoundTrip

/-!
# Do server and client decode TCP alike?

`receive_tcp` of `server_poll.c:197–299` and of `client_poll.c:34–147` are two copies of one
function. The client's looks at `errno` when its wait fails, and reports `1` where the server
reports the size as an `int`. The client's copy is followed here branch by branch and compared with
the common receiver, and then the two roles with each other.
-/

namespace Udtcp

open Interaction Routine

/-! ### The client's own copy -/

namespace Client

/-- The loop of `client_poll.c:94–131`, with its test for an interrupted wait. -/
def reassembleTcp (fd : Fd) (dataSize : Nat) : Nat → Nat → Proc ReceiveBuffer (Option Int)
  | 0, _ => return none
  | rounds + 1, bufferSize => do
    if bufferSize = dataSize then
      return none
    else
      let retPoll ← pollIn fd
      if retPoll < 0 then
        if (← errno) = .eintr then
          return some (-1)
        else
          return some (-1)
      else if retPoll = 0 then
        return some (-1)
      else
        let ret ← recvBuffer fd bufferSize (dataSize - bufferSize)
        if ret < 0 then
          return some (-1)
        else if ret = 0 then
          return some 0
        else
          reassembleTcp fd dataSize rounds (bufferSize + ret.toNat)

/-- `receive_tcp`, `client_poll.c:34–147`, in full. -/
def receiveTcpInFull (fd : Fd) (deliver : Option (List UInt8 → Callback)) :
    Proc ReceiveBuffer Int := do
  match ← syscall (.recv fd .word 4) with
  | .error _ => return -1
  | .ok size =>
    if size.val.length = 0 then
      return 0
    else if size.val.length ≠ 4 then
      return -1
    else
      let dataSize := Bytes.leNat size.val
      if ← growBuffer dataSize then
        let ret ← recvBuffer fd 0 dataSize
        if ret < 0 then
          return -1
        else if ret = 0 then
          return 0
        else
          match ← reassembleTcp fd dataSize dataSize ret.toNat with
          | some r => return r
          | none =>
            match deliver with
            | some f => issue (.callback (f ((← self).bytes 0 dataSize)))
            | none => pure ()
            return 1
      else
        return -1

private theorem reassembleTcp_eq (fd : Fd) (dataSize rounds have₀ : Nat) :
    reassembleTcp fd dataSize rounds have₀ = reassemble fd dataSize rounds have₀ := by
  induction rounds generalizing have₀ with
  | zero => rfl
  | succ rounds ih =>
    unfold reassembleTcp reassemble
    refine if_congr Iff.rfl rfl (bind_congr fun n ↦ ?_)
    by_cases hneg : n < 0
    · rw [if_pos hneg, if_pos (by omega)]
      funext t
      exact congrFun (ite_self _) t
    · rw [if_neg hneg]
      by_cases hzero : n = 0
      · rw [if_pos hzero, if_pos (by omega)]
      · rw [if_neg hzero, if_neg (by omega)]
        refine bind_congr fun k ↦ ?_
        simp only [ih]

/-- The client's copy is the common receiver, reporting `1`. -/
theorem receiveTcpInFull_eq (fd : Fd) (deliver : Option (List UInt8 → Callback)) :
    receiveTcpInFull fd deliver = receiveTcpWith fd deliver fun _ ↦ 1 := by
  simp only [receiveTcpInFull, reassembleTcp_eq]
  rfl

/-- `receive_tcp` of the client, by its own copy of the code. -/
def receiveTcpOwn : ClientProc Int := do
  let c ← self
  onBuffer (receiveTcpInFull c.serverInfos.tcpSocket (tcpDeliver c))

private theorem receiveTcpOwn_eq : receiveTcpOwn = receiveTcp := by
  simp only [receiveTcpOwn, receiveTcpInFull_eq]
  rfl

end Client

/-! ### What a reception comes to -/

/-- The size a reception reads, if it is one. -/
def announcedOf : (c : Call) → c.Reply → Option Nat
  | .sys (.recv _ .word _), .ok bs => if bs.val.length = 4 then some (Bytes.leNat bs.val) else none
  | _, _ => none

/-- The bytes of a message a reception stores. -/
def storedOf : (c : Call) → c.Reply → Nat
  | .sys (.recv _ (.buffer _ _ _) _), .ok bs => bs.val.length
  | _, _ => 0

/-- The size announced in the calls of a reception. -/
def announced (tr : Trace posix) : Option Nat := tr.findSome? fun e ↦ announcedOf e.call e.reply

/-- The bytes of the message that came in. -/
def stored (tr : Trace posix) : Nat := (tr.map fun e ↦ storedOf e.call e.reply).sum

@[simp] private theorem stored_append (tr tr' : Trace posix) :
    stored (tr ++ tr') = stored tr + stored tr' := by
  simp [stored]

/-- The calls by which a message is handed over. -/
def handover (deliver : Option (List UInt8 → Callback)) (data : List UInt8) : Trace posix :=
  match deliver with
  | some f => [⟨.callback (f data), ()⟩]
  | none => []

/-- A delivery is the handing over of a message and nothing else. -/
theorem delivery_iff {deliver : Option (List UInt8 → Callback)} {data : List UInt8}
    {tr : Trace posix} : delivery deliver data tr ↔ tr = handover deliver data := by
  cases deliver with
  | none => rfl
  | some f => exact ⟨fun ⟨_, h⟩ ↦ h, fun h ↦ ⟨(), h⟩⟩

@[simp] private theorem stored_handover (deliver : Option (List UInt8 → Callback))
    (data : List UInt8) :
    stored (handover deliver data) = 0 := by
  cases deliver <;> rfl

section

variable {fd : Fd} {t t' : Thread ReceiveBuffer} {tr : Trace posix}

private theorem recvBuffer_stored {offset len : Nat} {n : Int}
    (h : Exec (recvBuffer fd offset len) t tr n t') : stored tr = n.toNat ∧ n ≤ len := by
  rcases exec_recvBuffer.mp h with ⟨e, rfl, rfl, -⟩ | ⟨bs, rfl, rfl, -⟩
  · exact ⟨rfl, by omega⟩
  · have hle := bs.property
    refine ⟨?_, by omega⟩
    simp [stored, storedOf, ReceiveBuffer.target]

/-- The loop ends with all bytes there, or gives up while some are missing. -/
theorem reassemble_stored {dataSize rounds have₀ : Nat} {r : Option Int}
    (h : Exec (reassemble fd dataSize rounds have₀) t tr r t') (hle : have₀ ≤ dataSize)
    (hrounds : dataSize ≤ have₀ + rounds) :
    (r = none → have₀ + stored tr = dataSize) ∧
      ∀ n, r = some n → have₀ + stored tr < dataSize ∧ (n = -1 ∨ n = 0) := by
  induction rounds generalizing t tr have₀ with
  | zero =>
    obtain ⟨rfl, rfl, rfl⟩ := exec_pure.mp h
    exact ⟨fun _ ↦ by simp [stored]; omega, nofun⟩
  | succ rounds ih =>
    by_cases hdone : have₀ = dataSize
    · subst hdone
      obtain ⟨rfl, rfl, rfl⟩ := exec_reassemble_done.mp h
      exact ⟨fun _ ↦ by simp [stored], nofun⟩
    obtain ⟨reply, rest, rfl, hcases⟩ := (exec_reassemble hdone).mp h
    have hpoll : stored (⟨.sys (.poll [⟨fd, POLLIN, 0⟩] (-1)), reply⟩ :: rest) = stored rest := by
      simp [stored, storedOf]
    rw [hpoll]
    rcases hcases with ⟨-, rfl, rfl, -⟩ | ⟨-, tr₁, n, t₁, tr₂, rfl, hrecv, hend⟩
    · refine ⟨nofun, fun n hn ↦ ⟨?_, .inl (Option.some.inj hn).symm⟩⟩
      simp [stored]
      omega
    obtain ⟨hstored, hlen⟩ := recvBuffer_stored hrecv
    rw [stored_append, hstored]
    rcases hend with ⟨hneg, rfl, rfl, -⟩ | ⟨rfl, rfl, rfl, -⟩ | ⟨hpos, hloop⟩
    · refine ⟨nofun, fun n hn ↦ ⟨?_, .inl (Option.some.inj hn).symm⟩⟩
      simp [stored]
      omega
    · refine ⟨nofun, fun n hn ↦ ⟨?_, .inr (Option.some.inj hn).symm⟩⟩
      simp [stored]
      omega
    · obtain ⟨hnone, hsome⟩ := ih hloop (by omega) (by omega)
      refine ⟨fun hr ↦ ?_, fun k hk ↦ ?_⟩
      · have := hnone hr
        omega
      · obtain ⟨hlt, hk⟩ := hsome k hk
        exact ⟨by omega, hk⟩

private theorem receivePayload_outcome {deliver : Option (List UInt8 → Callback)}
    {success : Nat → Int} {dataSize : Nat} {n : Int}
    (h : Exec (receivePayload fd deliver success dataSize) t tr n t') :
    ((stored tr = dataSize → dataSize = 0) ∧ ∀ deliver' success',
      Exec (receivePayload fd deliver' success' dataSize) t tr n t') ∨
    ∃ data pre, 0 < dataSize ∧ stored tr = dataSize ∧ tr = pre ++ handover deliver data ∧
      n = success dataSize ∧ ∀ deliver' success',
        Exec (receivePayload fd deliver' success' dataSize) t (pre ++ handover deliver' data)
          (success' dataSize) t' := by
  unfold receivePayload at h
  obtain ⟨tr₁, k, t₁, rest, rfl, hk, hrest⟩ := exec_bind.mp h
  obtain ⟨hstored, hlen⟩ := recvBuffer_stored hk
  rw [exec_ite] at hrest
  split at hrest
  · next hneg =>
    obtain ⟨rfl, rfl, rfl⟩ := exec_pure.mp hrest
    refine .inl ⟨fun hall ↦ ?_, fun deliver' success' ↦ exec_bind.mpr ⟨tr₁, k, _, [], rfl, hk, ?_⟩⟩
    · rw [List.append_nil, hstored] at hall
      omega
    · rw [exec_ite, if_pos hneg]
      exact exec_pure.mpr ⟨rfl, rfl, rfl⟩
  rw [exec_ite] at hrest
  split at hrest
  · next hneg hzero =>
    obtain ⟨rfl, rfl, rfl⟩ := exec_pure.mp hrest
    refine .inl ⟨fun hall ↦ ?_, fun deliver' success' ↦ exec_bind.mpr ⟨tr₁, k, _, [], rfl, hk, ?_⟩⟩
    · rw [List.append_nil, hstored] at hall
      omega
    · rw [exec_ite, if_neg hneg, exec_ite, if_pos hzero]
      exact exec_pure.mpr ⟨rfl, rfl, rfl⟩
  next hneg hzero =>
  obtain ⟨tr₂, r, t₂, tr₃, rfl, hr, hend⟩ := exec_bind.mp hrest
  obtain ⟨hnone, hsome⟩ := reassemble_stored hr (by omega) (by omega)
  -- the run up to the end of the loop, for another callback
  have hrebuild {deliver' : Option (List UInt8 → Callback)} {success' : Nat → Int}
      {tail : Trace posix} {n' : Int} {t'' : Thread ReceiveBuffer}
      (htail : Exec (match r with
        | some r => pure r
        | none => do
          match deliver' with
          | some f => issue (.callback (f ((← self).bytes 0 dataSize)))
          | none => pure ()
          return success' dataSize) t₂ tail n' t'') :
      Exec (receivePayload fd deliver' success' dataSize) t (tr₁ ++ (tr₂ ++ tail)) n' t'' := by
    refine exec_bind.mpr ⟨tr₁, k, t₁, tr₂ ++ tail, rfl, hk, ?_⟩
    rw [exec_ite, if_neg hneg, exec_ite, if_neg hzero]
    exact exec_bind.mpr ⟨tr₂, r, t₂, tail, rfl, hr, htail⟩
  cases r with
  | some r =>
    obtain ⟨rfl, rfl, rfl⟩ := exec_pure.mp hend
    obtain ⟨hlt, -⟩ := hsome _ rfl
    refine .inl ⟨fun hall ↦ ?_, fun deliver' success' ↦ hrebuild (exec_pure.mpr ⟨rfl, rfl, rfl⟩)⟩
    rw [List.append_nil, stored_append, hstored] at hall
    omega
  | none =>
    have hall := hnone rfl
    have hdelivered : tr₃ = handover deliver (t₂.self.bytes 0 dataSize) ∧ n = success dataSize ∧
        t' = t₂ := by
      cases deliver with
      | none =>
        obtain ⟨rfl, rfl, rfl⟩ := exec_pure.mp hend
        exact ⟨rfl, rfl, rfl⟩
      | some f =>
        obtain ⟨u, _, rfl, hlast⟩ := exec_issue_bind.mp (exec_self_bind.mp hend)
        obtain ⟨rfl, rfl, rfl⟩ := exec_pure.mp hlast
        exact ⟨rfl, rfl, rfl⟩
    obtain ⟨rfl, rfl, rfl⟩ := hdelivered
    refine .inr ⟨t'.self.bytes 0 dataSize, tr₁ ++ tr₂, by omega, ?_, (List.append_assoc _ _ _).symm,
      rfl, fun deliver' success' ↦ ?_⟩
    · rw [stored_append, stored_append, stored_handover, hstored]
      omega
    · rw [List.append_assoc]
      refine hrebuild ?_
      cases deliver' with
      | none => exact exec_pure.mpr ⟨rfl, rfl, rfl⟩
      | some f =>
        refine exec_self_bind.mpr (exec_issue_bind.mpr ⟨(), [], rfl, ?_⟩)
        exact exec_pure.mpr ⟨rfl, rfl, rfl⟩

private theorem growBuffer_stored {need : Nat} {ok : Bool}
    (h : Exec (growBuffer need) t tr ok t') : stored tr = 0 := by
  rcases exec_growBuffer.mp h with ⟨-, rfl, -⟩ | ⟨-, e, rfl, -⟩ | ⟨-, block, rfl, -⟩
  · rfl
  · rfl
  · unfold ReceiveBuffer.release
    split
    · rfl
    · rfl

/-- **A reception** ends before its message is complete, with a result that does not depend on the
role, or hands the message over. -/
theorem receiveTcpWith_outcome {deliver : Option (List UInt8 → Callback)} {success : Nat → Int}
    {n : Int} (h : Exec (receiveTcpWith fd deliver success) t tr n t') :
    ((∀ size, announced tr = some size → stored tr = size → size = 0) ∧
      ∀ deliver' success', Exec (receiveTcpWith fd deliver' success') t tr n t') ∨
    ∃ size data pre, 0 < size ∧ size < 2 ^ 32 ∧ announced tr = some size ∧ stored tr = size ∧
      tr = pre ++ handover deliver data ∧ n = success size ∧ ∀ deliver' success',
        Exec (receiveTcpWith fd deliver' success') t (pre ++ handover deliver' data)
          (success' size) t' := by
  unfold receiveTcpWith at h
  obtain ⟨size, rest, rfl, hsize⟩ := exec_syscall_bind.mp h
  cases size with
  | error e =>
    obtain ⟨rfl, rfl, rfl⟩ := exec_pure.mp hsize
    exact .inl ⟨nofun, fun deliver' success' ↦ ⟨.error e, [], rfl, rfl, rfl⟩⟩
  | ok bs =>
    have hstored : stored (⟨.sys (.recv fd .word 4), .ok bs⟩ :: rest) = stored rest := by
      simp [stored, storedOf]
    -- the run behind the size field, for another callback
    have hrebuild {deliver' : Option (List UInt8 → Callback)} {success' : Nat → Int}
        {tail : Trace posix} {n' : Int} {t'' : Thread ReceiveBuffer}
        (htail : Exec (if bs.val.length = 0 then
            pure 0
          else if bs.val.length ≠ 4 then
            pure (-1)
          else do
            let ok ← growBuffer (Bytes.leNat bs.val)
            if ok then receivePayload fd deliver' success' (Bytes.leNat bs.val) else pure (-1))
          t tail n' t'') :
        Exec (receiveTcpWith fd deliver' success') t (⟨.sys (.recv fd .word 4), .ok bs⟩ :: tail)
          n' t'' := ⟨.ok bs, tail, rfl, htail⟩
    have hannounced (tail : Trace posix) (h₄ : bs.val.length = 4) :
        announced (⟨.sys (.recv fd .word 4), .ok bs⟩ :: tail) = some (Bytes.leNat bs.val) := by
      simp [announced, announcedOf, h₄]
    rw [exec_ite] at hsize
    split at hsize
    · next h₀ =>
      obtain ⟨rfl, rfl, rfl⟩ := exec_pure.mp hsize
      refine .inl ⟨fun size hsize ↦ ?_, fun deliver' success' ↦ hrebuild ?_⟩
      · simp [announced, announcedOf, h₀] at hsize
      · rw [exec_ite, if_pos h₀]
        exact exec_pure.mpr ⟨rfl, rfl, rfl⟩
    rw [exec_ite] at hsize
    split at hsize
    · next h₀ h₄ =>
      obtain ⟨rfl, rfl, rfl⟩ := exec_pure.mp hsize
      refine .inl ⟨fun size hsize ↦ ?_, fun deliver' success' ↦ hrebuild ?_⟩
      · simp [announced, announcedOf, h₄] at hsize
      · rw [exec_ite, if_neg h₀, exec_ite, if_pos h₄]
        exact exec_pure.mpr ⟨rfl, rfl, rfl⟩
    next h₀ hnot₄ =>
    have h₄ : bs.val.length = 4 := not_not.mp hnot₄
    obtain ⟨tr₁, ok, t₁, tr₂, rfl, hg, hend⟩ := exec_bind.mp hsize
    have hgrow := growBuffer_stored hg
    have hagain {deliver' : Option (List UInt8 → Callback)} {success' : Nat → Int}
        {tail : Trace posix} {n' : Int} {t'' : Thread ReceiveBuffer}
        (htail : Exec (if ok then receivePayload fd deliver' success' (Bytes.leNat bs.val)
          else pure (-1)) t₁ tail n' t'') :
        Exec (receiveTcpWith fd deliver' success') t
          (⟨.sys (.recv fd .word 4), .ok bs⟩ :: (tr₁ ++ tail)) n' t'' := by
      refine hrebuild ?_
      rw [exec_ite, if_neg h₀, exec_ite, if_neg hnot₄]
      exact exec_bind.mpr ⟨tr₁, ok, t₁, tail, rfl, hg, htail⟩
    rw [hannounced _ h₄, hstored, stored_append, hgrow, Nat.zero_add]
    cases ok with
    | false =>
      obtain ⟨rfl, rfl, rfl⟩ := exec_pure.mp hend
      refine .inl ⟨?_, fun deliver' success' ↦ hagain (exec_pure.mpr ⟨rfl, rfl, rfl⟩)⟩
      rintro _ - rfl
      rfl
    | true =>
      rcases receivePayload_outcome hend with
        ⟨hincomplete, hany⟩ | ⟨data, pre, hpos, hall, rfl, rfl, hany⟩
      · refine .inl ⟨?_, fun deliver' success' ↦ hagain (hany deliver' success')⟩
        rintro size hsize hall
        obtain rfl := Option.some.inj hsize
        exact hincomplete hall
      · have hlt := Bytes.leNat_lt bs.val
        rw [h₄] at hlt
        refine .inr ⟨_, data, ⟨.sys (.recv fd .word 4), .ok bs⟩ :: (tr₁ ++ pre), hpos, hlt, rfl,
          hall, by simp, rfl, fun deliver' success' ↦ ?_⟩
        rw [List.cons_append, List.append_assoc]
        exact hagain (hany deliver' success')

end

/-- Waiting for input does not depend on `errno`. -/
theorem blind_pollIn {τ : Type} (fd : Fd) : Blind (pollIn fd : Proc τ Int) :=
  (blind_syscall _).bind fun _ ↦ blind_pure _

/-- Growing the buffer does not depend on `errno`. -/
theorem blind_growBuffer (need : Nat) : Blind (growBuffer need) := by
  refine blind_self.bind fun b ↦ .ite ((blind_syscall _).bind fun r ↦ ?_) (blind_pure _)
  cases r with
  | error e => exact blind_pure _
  | ok block =>
    refine blind_self.bind fun b ↦ ?_
    cases b.bufferData with
    | none => exact (blind_update _).bind fun _ ↦ blind_pure _
    | some old =>
      exact (blind_issue fun _ ↦ rfl).bind fun _ ↦ (blind_update _).bind fun _ ↦ blind_pure _

private theorem blind_recvBuffer (fd : Fd) (offset len : Nat) :
    Blind (recvBuffer fd offset len) := by
  refine blind_self.bind fun b ↦ (blind_syscall _).bind fun r ↦ ?_
  cases r with
  | error e => exact blind_pure _
  | ok bs => exact (blind_update _).bind fun _ ↦ blind_pure _

private theorem blind_reassemble (fd : Fd) (dataSize rounds have₀ : Nat) :
    Blind (reassemble fd dataSize rounds have₀) := by
  induction rounds generalizing have₀ with
  | zero => exact blind_pure _
  | succ rounds ih =>
    refine .ite (blind_pure _) ((blind_pollIn fd).bind fun n ↦ .ite (blind_pure _) ?_)
    refine (blind_recvBuffer fd _ _).bind fun k ↦ .ite (blind_pure _) (.ite (blind_pure _) ?_)
    exact ih _

/-- Handing a message over does not look at `errno`. -/
theorem blind_handover (deliver : Option (List UInt8 → Callback)) (offset len : Nat) (n : Int) :
    Blind (do
      match deliver with
      | some f => issue (.callback (f ((← self).bytes offset len)))
      | none => pure ()
      return n : Proc ReceiveBuffer Int) := by
  cases deliver with
  | none => exact blind_pure _
  | some f => exact blind_self.bind fun b ↦ (blind_issue fun _ ↦ rfl).bind fun _ ↦ blind_pure _

/-- Nor does a reception from a connection. -/
theorem blind_receiveTcpWith (fd : Fd) (deliver : Option (List UInt8 → Callback))
    (success : Nat → Int) : Blind (receiveTcpWith fd deliver success) := by
  refine (blind_syscall _).bind fun r ↦ ?_
  cases r with
  | error e => exact blind_pure _
  | ok bs =>
    refine .ite (blind_pure _) (.ite (blind_pure _) ((blind_growBuffer _).bind fun ok ↦ ?_))
    refine .ite ((blind_recvBuffer fd _ _).bind fun k ↦ ?_) (blind_pure _)
    refine .ite (blind_pure _) (.ite (blind_pure _) ((blind_reassemble fd _ _ _).bind fun r ↦ ?_))
    cases r with
    | some r => exact blind_pure _
    | none => exact blind_handover deliver _ _ _

/-! ### Server and client -/

/-- The poll loops make the same of both results: read on, close the connection, or look at
`errno`. -/
def SameClass (n n' : Int) : Prop := (0 < n ↔ 0 < n') ∧ (n < 0 ↔ n' < 0)

/-- The same call with the same answer, or the same message handed to the callback of the other
role. -/
inductive Counterpart : Event posix → Event posix → Prop
  | same (e : Event posix) : Counterpart e e
  | message (slot slot' : Nat) (r r' : UdtcpInfos) (data : List UInt8) :
      Counterpart ⟨.callback (.receiveTcp slot r data), ()⟩
        ⟨.callback (.receiveTcp slot' r' data), ()⟩

/-- A server and a client about to receive from one socket into the same buffer, both with a
callback or both without. -/
structure Matching {m : Nat} (s : UdtcpServer m) (slot : Nat) (c : UdtcpClient) : Prop where
  buffer : c.buffer = s.buffer
  socket : c.serverInfos.tcpSocket = (s.infos slot).tcpSocket
  callback : c.receiveTcpCallback = s.receiveTcpCallback

/-- A message that came in whole and whose size does not fit an `int`. -/
def CompletesLarge (tr : Trace posix) : Prop :=
  ∃ size, announced tr = some size ∧ stored tr = size ∧ 2 ^ 31 ≤ size

section

variable {m : Nat} {s : UdtcpServer m} {slot : Nat} {c : UdtcpClient}

private theorem counterpart_refl (tr : Trace posix) : List.Forall₂ Counterpart tr tr :=
  List.forall₂_same.mpr fun e _ ↦ .same e

/-- The roles may be exchanged. -/
theorem Counterpart.symm {e e' : Event posix} (h : Counterpart e e') : Counterpart e' e := by
  cases h with
  | same => exact .same e
  | message slot slot' r r' data => exact .message slot' slot r' r data

private theorem Matching.counterpart_handover (h : Matching s slot c) (data : List UInt8) :
    List.Forall₂ Counterpart (handover (s.tcpDeliver slot) data)
      (handover (Client.tcpDeliver c) data) := by
  unfold UdtcpServer.tcpDeliver Client.tcpDeliver
  rw [h.callback]
  split
  · exact .cons (.message _ _ _ _ _) .nil
  · exact .nil

private theorem sameClass_comm {n n' : Int} : SameClass n n' ↔ SameClass n' n :=
  and_congr iff_comm iff_comm

private theorem sameClass_cInt_iff {size : Nat} (hpos : 0 < size) (hlt : size < 2 ^ 32) :
    SameClass (cInt size) 1 ↔ size < 2 ^ 31 := by
  rw [SameClass, cInt_eq hlt]
  split <;> omega

private theorem receiveTcpWith_otherRole {fd : Fd} {tr : Trace posix}
    {t t' : Thread ReceiveBuffer} {success : Nat → Int} {n : Int}
    {deliver deliver' : Option (List UInt8 → Callback)} (success' : Nat → Int)
    (hdeliver : ∀ data, List.Forall₂ Counterpart (handover deliver data) (handover deliver' data))
    (hclass : ∀ size, 0 < size → size < 2 ^ 32 →
      (SameClass (success size) (success' size) ↔ size < 2 ^ 31))
    (hrun : Exec (receiveTcpWith fd deliver success) t tr n t') :
    ∃ tr' n',
      (∀ e, ∃ e', Exec (receiveTcpWith fd deliver' success') ⟨e, t.self⟩ tr' n' ⟨e', t'.self⟩) ∧
      List.Forall₂ Counterpart tr tr' ∧ (SameClass n n' ↔ ¬ CompletesLarge tr) := by
  have hblind := blind_receiveTcpWith fd deliver' success'
  rcases receiveTcpWith_outcome hrun with
    ⟨hincomplete, hany⟩ | ⟨size, data, pre, hpos, hlt, hsize, hall, rfl, rfl, hany⟩
  · refine ⟨tr, n, fun e ↦ ⟨_, (hblind (hany deliver' success')).2 e⟩, counterpart_refl tr,
      iff_of_true ⟨Iff.rfl, Iff.rfl⟩ ?_⟩
    rintro ⟨size, hsize, hall, hlarge⟩
    have hzero := hincomplete size hsize hall
    omega
  · refine ⟨_, _, fun e ↦ ⟨_, (hblind (hany deliver' success')).2 e⟩,
      List.rel_append (counterpart_refl pre) (hdeliver data), ?_⟩
    rw [hclass size hpos hlt]
    constructor
    · rintro hsmall ⟨size', hsize', -, hlarge⟩
      obtain rfl := Option.some.inj (hsize.symm.trans hsize')
      omega
    · intro hno
      by_contra hlarge
      exact hno ⟨size, hsize, hall, Nat.le_of_not_lt hlarge⟩

end

section

variable {m : Nat} {t t' : Thread (UdtcpServer m)} {slot : Nat} {u u' : Thread UdtcpClient}
  {tr : Trace posix} {n : Int}

private theorem Counterpart.flip_forall₂ {tr tr' : Trace posix}
    (h : List.Forall₂ Counterpart tr tr') : List.Forall₂ Counterpart tr' tr :=
  h.flip.imp fun _ _ ↦ Counterpart.symm

/-- What the client makes of what a server receives. -/
theorem Matching.exists_clientRun (h : Matching t.self slot u.self)
    (hrun : Exec (receiveTcp slot) t tr n t') :
    ∃ tr' n' u', Exec Client.receiveTcpOwn u tr' n' u' ∧ List.Forall₂ Counterpart tr tr' ∧
      u'.self.buffer = t'.self.buffer ∧ (SameClass n n' ↔ ¬ CompletesLarge tr) := by
  obtain ⟨v, hv, rfl⟩ := exec_receiveTcp.mp hrun
  obtain ⟨tr', n', hother, hcounterpart, hclass⟩ := receiveTcpWith_otherRole (fun _ ↦ 1)
    h.counterpart_handover (fun _ ↦ sameClass_cInt_iff) hv
  obtain ⟨e', hother⟩ := hother u.errno
  rw [← h.socket, ← h.buffer] at hother
  refine ⟨tr', n', ⟨e', { u.self with buffer := v.self }⟩, ?_, hcounterpart, rfl, hclass⟩
  rw [Client.receiveTcpOwn_eq]
  exact Client.exec_receiveTcp.mpr ⟨_, hother, rfl⟩

/-- What the server makes of what a client receives. -/
theorem Matching.exists_serverRun (h : Matching t.self slot u.self)
    (hrun : Exec Client.receiveTcpOwn u tr n u') :
    ∃ tr' n' t', Exec (receiveTcp slot) t tr' n' t' ∧ List.Forall₂ Counterpart tr' tr ∧
      u'.self.buffer = t'.self.buffer ∧ (SameClass n' n ↔ ¬ CompletesLarge tr) := by
  rw [Client.receiveTcpOwn_eq] at hrun
  obtain ⟨v, hv, rfl⟩ := Client.exec_receiveTcp.mp hrun
  obtain ⟨tr', n', hother, hcounterpart, hclass⟩ := receiveTcpWith_otherRole cInt
    (fun data ↦ Counterpart.flip_forall₂ (h.counterpart_handover data))
    (fun size hpos hlt ↦ sameClass_comm.trans (sameClass_cInt_iff hpos hlt)) hv
  obtain ⟨e', hother⟩ := hother t.errno
  rw [h.socket] at hother
  rw [h.buffer] at hother
  exact ⟨tr', n', ⟨e', { t.self with buffer := v.self }⟩, exec_receiveTcp.mpr ⟨_, hother, rfl⟩,
    Counterpart.flip_forall₂ hcounterpart, rfl, sameClass_comm.trans hclass⟩

end

/-- **Server and client decode TCP alike**, call by call and message by message, whatever the calls
answer; and their poll loops make the same of the results exactly if no message of 2^31 bytes or
more came in whole. -/
theorem tcp_decoded_alike_iff {m : Nat} {t : Thread (UdtcpServer m)} {slot : Nat}
    {u : Thread UdtcpClient} (h : Matching t.self slot u.self) :
    (∀ tr n t', Exec (receiveTcp slot) t tr n t' →
      ∃ tr' n' u', Exec Client.receiveTcpOwn u tr' n' u' ∧ List.Forall₂ Counterpart tr tr' ∧
        u'.self.buffer = t'.self.buffer ∧ (SameClass n n' ↔ ¬ CompletesLarge tr)) ∧
    (∀ tr n u', Exec Client.receiveTcpOwn u tr n u' →
      ∃ tr' n' t', Exec (receiveTcp slot) t tr' n' t' ∧ List.Forall₂ Counterpart tr' tr ∧
        u'.self.buffer = t'.self.buffer ∧ (SameClass n' n ↔ ¬ CompletesLarge tr)) :=
  ⟨fun _ _ _ ↦ h.exists_clientRun, fun _ _ _ ↦ h.exists_serverRun⟩

/-! ### Messages that come in -/

private theorem exists_message (fd : Fd) (success : Nat → Int) {data : List UInt8}
    (hpos : 0 < data.length) (hlen : data.length < 2 ^ 32) (t : Thread ReceiveBuffer) :
    ∃ tr t', Exec (receiveTcpWith fd none success) t tr (success data.length) t' ∧
      announced tr = some data.length ∧ stored tr = data.length := by
  obtain ⟨tr, t₁, hg, -, -⟩ := exists_growBuffer t data.length
  have h₄ : (Bytes.leBytes 4 data.length).length = 4 := Bytes.length_leBytes 4 _
  have hsize : Bytes.leNat (Bytes.leBytes 4 data.length) = data.length :=
    Bytes.leNat_leBytes_of_lt hlen
  let size : {bs : List UInt8 // bs.length ≤ 4} := ⟨_, Nat.le_of_eq h₄⟩
  let bs : {bs : List UInt8 // bs.length ≤ data.length} := ⟨data, Nat.le_refl _⟩
  let recv : Trace posix := [⟨.sys (.recv fd (t₁.self.target 0) data.length), .ok bs⟩]
  let t₂ : Thread ReceiveBuffer := { t₁ with self := t₁.self.fill 0 data }
  have hrecv : Exec (recvBuffer fd 0 data.length) t₁ recv data.length t₂ :=
    exec_recvBuffer.mpr (.inr ⟨bs, rfl, rfl, rfl⟩)
  have hstored := (recvBuffer_stored hrecv).1
  refine ⟨⟨.sys (.recv fd .word 4), .ok size⟩ :: (tr ++ (recv ++ [])), t₂,
    ⟨.ok size, tr ++ (recv ++ []), rfl, ?_⟩, ?_, ?_⟩
  · change Exec (if size.val.length = 0 then pure 0 else if size.val.length ≠ 4 then pure (-1) else
      growBuffer (Bytes.leNat size.val) >>= fun ok ↦
        if ok then receivePayload fd none success (Bytes.leNat size.val) else pure (-1)) t _ _ t₂
    have hzero : ¬ size.val.length = 0 := by
      rw [h₄]
      decide
    rw [if_neg hzero, if_neg (not_not.mpr h₄), hsize]
    refine exec_bind.mpr ⟨tr, true, t₁, recv ++ [], rfl, hg, ?_⟩
    rw [exec_ite, if_pos rfl]
    refine exec_bind.mpr ⟨recv, data.length, t₂, [], rfl, hrecv, ?_⟩
    rw [if_neg (by omega), if_neg (by omega), exec_bind]
    refine ⟨[], none, t₂, [], rfl, ?_, exec_pure.mpr ⟨rfl, rfl, rfl⟩⟩
    rw [Int.toNat_natCast]
    exact exec_reassemble_done.mpr ⟨rfl, rfl, rfl⟩
  · simp only [announced, List.findSome?_cons, announcedOf, size, h₄, if_pos, hsize]
  · have hgrow := growBuffer_stored hg
    have hhead (rest : Trace posix) :
        stored (⟨.sys (.recv fd .word 4), .ok size⟩ :: rest) = stored rest := by
      simp [stored, storedOf]
    rw [hhead, stored_append, hgrow, List.append_nil, hstored]
    omega

private theorem matching_zero :
    Matching (UdtcpServer.listening 3 4 : UdtcpServer 42) 2 (.zero 0) where
  buffer := rfl
  socket := rfl
  callback := rfl

private theorem exists_message_alike (data : List UInt8) (hpos : 0 < data.length)
    (hlen : data.length < 2 ^ 32) : ∃ tr t', Exec (receiveTcp 2)
      (⟨.other 0, .listening 3 4⟩ : Thread (UdtcpServer 42)) tr (cInt data.length) t' ∧
      announced tr = some data.length ∧ stored tr = data.length := by
  obtain ⟨tr, v, hv, hannounced, hstored⟩ :=
    exists_message 0 cInt hpos hlen ⟨.other 0, .empty⟩
  exact ⟨tr, _, exec_receiveTcp.mpr ⟨v, hv, rfl⟩, hannounced, hstored⟩

/-- Both roles read on after a message of one byte. -/
theorem tcp_decoded_alike_one_byte : ∃ (t t' : Thread (UdtcpServer 42)) (u u' : Thread UdtcpClient)
    (tr tr' : Trace posix) (n n' : Int), Exec (receiveTcp 2) t tr n t' ∧
    Exec Client.receiveTcpOwn u tr' n' u' ∧ stored tr = 1 ∧ SameClass n n' := by
  obtain ⟨tr, t', hrun, hannounced, hstored⟩ :=
    exists_message_alike [7] (by decide) (by decide)
  obtain ⟨tr', n', u', hother, -, -, hclass⟩ := (tcp_decoded_alike_iff
    (t := ⟨.other 0, .listening 3 4⟩)
    (u := ⟨.other 1, .zero 0⟩) matching_zero).1 _ _ _ hrun
  refine ⟨_, t', _, u', tr, tr', _, n', hrun, hother, hstored, hclass.mpr ?_⟩
  rintro ⟨size, hsize, -, hlarge⟩
  obtain rfl := Option.some.inj (hannounced.symm.trans hsize)
  exact absurd hlarge (by decide)

/-- **The defect.** After a message of 2^31 bytes a server looks at `errno`, a client reads on. -/
theorem tcp_large_message_unlike : ∃ (t t' : Thread (UdtcpServer 42)) (u u' : Thread UdtcpClient)
    (tr tr' : Trace posix) (n n' : Int), Matching t.self 2 u.self ∧
    Exec (receiveTcp 2) t tr n t' ∧ Exec Client.receiveTcpOwn u tr' n' u' ∧
    List.Forall₂ Counterpart tr tr' ∧ announced tr = some (2 ^ 31) ∧ ¬ SameClass n n' := by
  have hlen : (List.replicate (2 ^ 31) (7 : UInt8)).length = 2 ^ 31 := List.length_replicate
  generalize List.replicate (2 ^ 31) (7 : UInt8) = data at hlen
  obtain ⟨tr, t', hrun, hannounced, hstored⟩ :=
    exists_message_alike data (by omega) (by omega)
  obtain ⟨tr', n', u', hother, hcounterpart, -, hclass⟩ := Matching.exists_clientRun
    (u := ⟨.other 1, .zero 0⟩) matching_zero hrun
  refine ⟨_, t', _, u', tr, tr', _, n', matching_zero, hrun, hother, hcounterpart,
    hannounced.trans (congrArg some hlen), fun hsame ↦ hclass.mp hsame ?_⟩
  exact ⟨data.length, hannounced, hstored, Nat.le_of_eq hlen.symm⟩

end Udtcp
