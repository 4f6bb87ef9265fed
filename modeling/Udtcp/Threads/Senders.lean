import Udtcp.Interaction.Ownership
import Udtcp.Send.Guarded
import Udtcp.Send.Stream

/-!
# Threads that send at the same time

Any number of threads, each with a list of messages to send by TCP and UDP, take turns call by
call. Records may share a send structure, `udtcp/src/send.c:33–103`. The lock lets one call at a
time at the buffer of a structure, so what reaches a socket are whole frames, one for each
successful call.
-/

namespace Udtcp

open Interaction Routine

/-- A thread that sends messages one after the other: the finished calls with what they returned,
the call that is going on and what is left of it, and the messages to come. -/
structure Sender where
  results : List (Request × Int)
  current : Option (Request × Program posix (Int × Thread Unit))
  queue : List Request

namespace Sender

/-- The message whose call is going on. -/
def sending (s : Sender) : List Request := s.current.toList.map Prod.fst

/-- The messages of a thread, sent or not. -/
def requests (s : Sender) : List Request := s.results.map Prod.fst ++ s.sending ++ s.queue

/-- The messages whose call was successful. -/
def succeeded (s : Sender) : List Request := (s.results.filter fun r ↦ 0 < r.2).map Prod.fst

end Sender

/-- What the kernel took of a call, if anything. -/
def deliveredOf : (c : Call) → c.Reply → Option Handed
  | .sys (.send fd bytes), .ok n => some ⟨fd, bytes.take n.val, none⟩
  | .sys (.sendto fd bytes dest), .ok n => some ⟨fd, bytes.take n.val, some dest⟩
  | _, _ => none

/-- A call, with the thread and the message it was made for. -/
structure SendEntry (ι : Type) where
  sender : ι
  request : Request
  event : Event posix

/-- What the kernel took. -/
def SendEntry.delivered {ι : Type} (e : SendEntry ι) : Option Handed :=
  deliveredOf e.event.call e.event.reply

/-- The send structures of a process and who holds their locks. -/
structure SendMemory (ι : Type) where
  cells : UInt64 → UdtcpSend
  holder : UInt64 → Option ι

/-- How a call of thread `i` may be answered. A lock is given to one thread at a time or refused,
memory is shared, and the kernel takes a buffer whole or reports an error. -/
def sharedKernel {ι : Type} (i : ι) : Kernel posix (SendMemory ι)
  | m, .mutexLock a, true, m' =>
      m.holder a = none ∧ m' = { m with holder := Function.update m.holder a (some i) }
  | m, .mutexUnlock a, _, m' => m' = { m with holder := Function.update m.holder a none }
  | m, .loadSend a, s, m' => s = m.cells a ∧ m' = m
  | m, .storeSend a s, _, m' => m' = { m with cells := Function.update m.cells a s }
  | m, .sys (.send _ bytes), .ok n, m' => n.val = bytes.length ∧ m' = m
  | m, .sys (.sendto _ bytes _), .ok n, m' => n.val = bytes.length ∧ m' = m
  | m, _, _, m' => m' = m

/-- The memory the threads share, the threads and the calls they made. -/
structure Sending (ι : Type) where
  memory : SendMemory ι
  senders : ι → Sender
  log : List (SendEntry ι)

namespace Sending

variable {ι : Type}

/-- Nothing is sent yet; the send structures are as `memset` leaves them. -/
def start (requests : ι → List Request) : Sending ι :=
  ⟨⟨fun _ ↦ .zero, fun _ ↦ none⟩, fun i ↦ ⟨[], none, requests i⟩, []⟩

/-- The calls in which the kernel took something. -/
def taken (log : List (SendEntry ι)) : List (SendEntry ι) := log.filter (·.delivered.isSome)

/-- The bytes put on stream socket `fd`. -/
def streamOn (fd : Fd) (log : List (SendEntry ι)) : List UInt8 :=
  ((log.filterMap (·.delivered)).filter fun d ↦ d.dest = none ∧ d.fd = fd).flatMap (·.bytes)

/-- The datagrams sent. -/
def datagrams (log : List (SendEntry ι)) : List Handed :=
  (log.filterMap (·.delivered)).filter (·.dest.isSome)

variable [DecidableEq ι]

/-- The messages of thread `i` the kernel took. -/
def takenFrom (i : ι) (log : List (SendEntry ι)) : List Request :=
  ((taken log).filter (·.sender = i)).map (·.request)

/-- Thread `i` becomes `s`. -/
def become (p : Sending ι) (i : ι) (s : Sender) : Sending ι :=
  { p with senders := Function.update p.senders i s }

/-- One step: a thread enters a send with whatever `errno` it has, makes the next call of it, or
returns from it. -/
inductive Next : Sending ι → Sending ι → Prop
  | enter {p : Sending ι} {i : ι} {results : List (Request × Int)} {q : Request}
      {queue : List Request} (e : Errno) (h : p.senders i = ⟨results, none, q :: queue⟩) :
      Next p (p.become i ⟨results, some (q, q.run ⟨e, ()⟩), queue⟩)
  | call {p : Sending ι} {m : SendMemory ι} {i : ι} {results : List (Request × Int)} {q : Request}
      {c : Call} {next : c.Reply → Program posix (Int × Thread Unit)} {queue : List Request}
      {r : c.Reply} (h : p.senders i = ⟨results, some (q, .call c next), queue⟩)
      (ha : sharedKernel i p.memory c r m) :
      Next p { p.become i ⟨results, some (q, next r), queue⟩ with
        memory := m
        log := p.log ++ [⟨i, q, ⟨c, r⟩⟩] }
  | leave {p : Sending ι} {i : ι} {results : List (Request × Int)} {q : Request} {n : Int}
      {t : Thread Unit} {queue : List Request}
      (h : p.senders i = ⟨results, some (q, .ret (n, t)), queue⟩) :
      Next p (p.become i ⟨results ++ [(q, n)], none, queue⟩)

/-- What the lock keeps apart: every buffer handed over is the frame of its message, on its socket
and to its address. So streams and datagrams are made of whole frames, one for each successful
call, in the order of the calls of each thread, and nothing is done to a send structure but by the
thread that holds its lock. -/
structure Unmixed (requests : ι → List Request) (p : Sending ι) : Prop where
  handed : ∀ e ∈ p.log, ∀ d, handedOf e.event.call = some d → d = e.request.handed
  stream : ∀ fd, streamOn fd p.log = ((taken p.log).filter fun e ↦ e.request.udp = false ∧
    e.request.infos.tcpSocket = fd).flatMap fun e ↦ Bytes.frame e.request.data.val
  datagram : datagrams p.log =
    ((taken p.log).filter (·.request.udp)).map (·.request.handed)
  once : ∀ i, ∃ rest, rest.Sublist (p.senders i).sending ∧
    takenFrom i p.log = (p.senders i).succeeded ++ rest
  requests : ∀ i, (p.senders i).requests = requests i
  owner : ∀ i results q c next queue, p.senders i = ⟨results, some (q, .call c next), queue⟩ →
    c = .mutexLock q.infos.send ∨ p.memory.holder q.infos.send = some i ∧
      ∀ d, handedOf c = some d → (p.memory.cells q.infos.send).Holds q.data.val
  room : ∀ a, (p.memory.cells a).Roomy

/-! ### The invariant -/

/-- Where a thread stands, given what it claims by its lock and which messages were taken. -/
def Stands (claim : Option (UInt64 × UdtcpSend)) (took : List Request) (s : Sender) : Prop :=
  match s.current with
  | none => claim = none ∧ took = s.succeeded
  | some (q, prog) => ∃ k : Stance, claim = k.cell.map (q.infos.send, ·) ∧
      prog.Keeps (sendContract q) (fun o k ↦ Over o.1 k) k ∧
      took = s.succeeded ++ if k.taken then [q] else []

/-- The invariant of every order of steps. -/
structure Sound (requests : ι → List Request) (p : Sending ι)
    (claim : ι → Option (UInt64 × UdtcpSend)) : Prop where
  owned : Owned UdtcpSend.Laid p.memory.cells p.memory.holder claim
  roomy : ∀ a, (p.memory.cells a).Roomy
  stands : ∀ i, Stands (claim i) (takenFrom i p.log) (p.senders i)
  order : ∀ i, (p.senders i).requests = requests i
  handed : ∀ e ∈ p.log, ∀ d, handedOf e.event.call = some d → d = e.request.handed
  delivered : ∀ e ∈ p.log, ∀ d, e.delivered = some d → d = e.request.handed

variable {requests : ι → List Request} {p p' : Sending ι} {claim : ι → Option (UInt64 × UdtcpSend)}

/-- Nobody has done anything yet. -/
theorem sound_start (requests : ι → List Request) :
    Sound requests (start requests) fun _ ↦ none where
  owned := .start fun _ ↦ UdtcpSend.laid_zero
  roomy := fun _ ↦ UdtcpSend.roomy_zero
  stands := fun _ ↦ ⟨rfl, rfl⟩
  order := fun _ ↦ rfl
  handed := fun _ he ↦ absurd he List.not_mem_nil
  delivered := fun _ he ↦ absurd he List.not_mem_nil

private theorem exists_stance {i : ι} {q : Request} {c : Call} {r : c.Reply} {k : Stance}
    {m m' : SendMemory ι}
    (hown : Owned UdtcpSend.Laid m.cells m.holder claim) (hroomy : ∀ a, (m.cells a).Roomy)
    (hk : claim i = k.cell.map (q.infos.send, ·)) (hc : (sendContract q).Allows k c)
    (ha : sharedKernel i m c r m') :
    ∃ k', (sendContract q).Answers k c r k' ∧
      Owned UdtcpSend.Laid m'.cells m'.holder
        (Function.update claim i (k'.cell.map (q.infos.send, ·))) ∧
      (∀ a, (m'.cells a).Roomy) ∧
      (∀ d, handedOf c = some d → d = q.handed) ∧ (∀ d, deliveredOf c r = some d → d = q.handed) ∧
      (if k'.taken then [q] else []) =
        (if k.taken then [q] else []) ++ if (deliveredOf c r).isSome then [q] else [] := by
  have hsame : Owned UdtcpSend.Laid m.cells m.holder
      (Function.update claim i (k.cell.map (q.infos.send, ·))) := by
    rw [← hk, Function.update_eq_self]
    exact hown
  have hclaim {s : UdtcpSend} (hs : k.cell = some s) : claim i = some (q.infos.send, s) := by
    rw [hk, hs]
    rfl
  cases c with
  | mutexLock a =>
    obtain ⟨rfl, hnone⟩ := hc
    cases r with
    | true =>
      obtain ⟨hfree, rfl⟩ := ha
      have hi : claim i = none := by rw [hk, hnone]; rfl
      exact ⟨{ k with cell := some (m.cells q.infos.send) },
        ⟨_, hown.free _ hfree, hroomy _, rfl⟩, hown.lock hi hfree, hroomy, nofun,
          nofun, by simp [deliveredOf]⟩
    | false =>
      obtain rfl := ha
      exact ⟨k, rfl, hsame, hroomy, nofun, nofun, by simp [deliveredOf]⟩
  | mutexUnlock a =>
    obtain ⟨rfl, s, hs, hlaid⟩ := hc
    obtain rfl := ha
    exact ⟨{ k with cell := none }, rfl, hown.unlock (hclaim hs) hlaid, hroomy, nofun, nofun,
      by simp [deliveredOf]⟩
  | loadSend a =>
    obtain ⟨rfl, hne⟩ := hc
    obtain ⟨rfl, rfl⟩ := ha
    obtain ⟨s, hs⟩ := Option.ne_none_iff_exists'.mp hne
    have hcell := (hown.claimed i _ s (hclaim hs)).2
    exact ⟨k, ⟨hs.trans (congrArg some hcell.symm), rfl⟩, hsame, hroomy, nofun, nofun,
      by simp [deliveredOf]⟩
  | storeSend a s =>
    obtain ⟨rfl, hne, hroom⟩ := hc
    obtain rfl := ha
    obtain ⟨s₀, hs⟩ := Option.ne_none_iff_exists'.mp hne
    refine ⟨{ k with cell := some s }, rfl, hown.store (hclaim hs) s, fun a ↦ ?_, nofun, nofun,
      by simp [deliveredOf]⟩
    by_cases ha : a = q.infos.send
    · subst ha
      simpa using hroom
    · simpa [ha] using hroomy a
  | freeBuffer ptr =>
    obtain rfl := ha
    exact ⟨k, rfl, hsame, hroomy, nofun, nofun, by simp [deliveredOf]⟩
  | sys c =>
    cases c with
    | newBuffer size =>
      obtain rfl := ha
      exact ⟨k, rfl, hsame, hroomy, nofun, nofun, by simp [deliveredOf]⟩
    | send fd bytes =>
      obtain ⟨htaken, hq, -⟩ := hc
      have hhanded : ∀ d, handedOf (.sys (.send fd bytes)) = some d → d = q.handed := by
        rintro d hd
        rw [hq]
        exact (Option.some.inj hd).symm
      cases r with
      | error e =>
        obtain rfl := ha
        exact ⟨k, rfl, hsame, hroomy, hhanded, nofun, by simp [deliveredOf]⟩
      | ok n =>
        obtain ⟨hn, rfl⟩ := ha
        refine ⟨{ k with taken := true }, ⟨hn, rfl⟩, hsame, hroomy, hhanded, ?_, ?_⟩
        · rintro d hd
          rw [hq, ← Option.some.inj hd, hn, List.take_length]
        · simp [htaken, deliveredOf]
    | sendto fd bytes dest =>
      obtain ⟨htaken, hq, -⟩ := hc
      have hhanded : ∀ d, handedOf (.sys (.sendto fd bytes dest)) = some d → d = q.handed := by
        rintro d hd
        rw [hq]
        exact (Option.some.inj hd).symm
      cases r with
      | error e =>
        obtain rfl := ha
        exact ⟨k, rfl, hsame, hroomy, hhanded, nofun, by simp [deliveredOf]⟩
      | ok n =>
        obtain ⟨hn, rfl⟩ := ha
        refine ⟨{ k with taken := true }, ⟨hn, rfl⟩, hsame, hroomy, hhanded, ?_, ?_⟩
        · rintro d hd
          rw [hq, ← Option.some.inj hd, hn, List.take_length]
        · simp [htaken, deliveredOf]
    | _ => exact hc.elim
  | _ => exact hc.elim

private theorem takenFrom_append (i : ι) (log : List (SendEntry ι)) (e : SendEntry ι) :
    takenFrom i (log ++ [e]) =
      takenFrom i log ++ if e.delivered.isSome ∧ e.sender = i then [e.request] else [] := by
  rw [takenFrom, takenFrom, taken, taken, List.filter_append, List.filter_append, List.map_append]
  by_cases hd : e.delivered.isSome = true
  · by_cases hi : e.sender = i
    · simp [hd, hi]
    · simp [hd, hi]
  · simp [hd]

@[simp] private theorem become_self (i : ι) (s : Sender) : (p.become i s).senders i = s :=
  Function.update_self ..

private theorem become_of_ne {i j : ι} (s : Sender) (h : j ≠ i) :
    (p.become i s).senders j = p.senders j :=
  Function.update_of_ne h ..

private theorem Sound.enter (h : Sound requests p claim)
    (hsize : ∀ i, ∀ q ∈ requests i, 1 ≤ q.data.val.length ∧ q.data.val.length ≤ 2 ^ 32 - 5) {i : ι}
    {results : List (Request × Int)} {q : Request} {queue : List Request} (e : Errno)
    (hi : p.senders i = ⟨results, none, q :: queue⟩) :
    Sound requests (p.become i ⟨results, some (q, q.run ⟨e, ()⟩), queue⟩) claim := by
  refine ⟨h.owned, h.roomy, fun j ↦ ?_, fun j ↦ ?_, h.handed, h.delivered⟩
  · by_cases hj : j = i
    · subst hj
      have hq : q ∈ requests j := by
        rw [← h.order j, hi]
        simp [Sender.requests]
      obtain ⟨hpos, hlen⟩ := hsize j q hq
      have hst := h.stands j
      rw [hi] at hst
      obtain ⟨hclaim, htook⟩ := hst
      rw [become_self]
      exact ⟨⟨none, false⟩, hclaim, q.safe_run (by omega) (by omega),
        htook.trans (List.append_nil _).symm⟩
    · rw [become_of_ne _ hj]
      exact h.stands j
  · by_cases hj : j = i
    · subst hj
      rw [become_self, ← h.order j, hi]
      simp [Sender.requests, Sender.sending]
    · rw [become_of_ne _ hj]
      exact h.order j

private theorem Sound.leave (h : Sound requests p claim) {i : ι} {results : List (Request × Int)}
    {q : Request} {n : Int} {t : Thread Unit} {queue : List Request}
    (hi : p.senders i = ⟨results, some (q, .ret (n, t)), queue⟩) :
    Sound requests (p.become i ⟨results ++ [(q, n)], none, queue⟩) claim := by
  refine ⟨h.owned, h.roomy, fun j ↦ ?_, fun j ↦ ?_, h.handed, h.delivered⟩
  · by_cases hj : j = i
    · subst hj
      have hst := h.stands j
      rw [hi] at hst
      obtain ⟨⟨cell, took⟩, hclaim, ⟨hcell, hn⟩, htook⟩ := hst
      obtain rfl : cell = none := hcell
      rw [become_self]
      refine ⟨hclaim, htook.trans ?_⟩
      change 0 < n ↔ took = true at hn
      rw [Sender.succeeded, Sender.succeeded, List.filter_append, List.map_append]
      by_cases hpos : 0 < n
      · simp [hpos, hn.mp hpos]
      · simp [hpos, mt hn.mpr hpos]
    · rw [become_of_ne _ hj]
      exact h.stands j
  · by_cases hj : j = i
    · subst hj
      rw [become_self, ← h.order j, hi]
      simp [Sender.requests, Sender.sending]
    · rw [become_of_ne _ hj]
      exact h.order j

private theorem Sound.call (h : Sound requests p claim) {i : ι} {results : List (Request × Int)}
    {m : SendMemory ι} {q : Request} {c : Call} {next : c.Reply → Program posix (Int × Thread Unit)}
    {queue : List Request} {r : c.Reply}
    (hi : p.senders i = ⟨results, some (q, .call c next), queue⟩)
    (ha : sharedKernel i p.memory c r m) :
    ∃ claim', Sound requests { p.become i ⟨results, some (q, next r), queue⟩ with
      memory := m
      log := p.log ++ [⟨i, q, ⟨c, r⟩⟩] } claim' := by
  have hst := h.stands i
  rw [hi] at hst
  obtain ⟨k, hk, ⟨hc, hnext⟩, htook⟩ := hst
  obtain ⟨k', hk', hown, hroomy, hhanded, hdelivered, htaken⟩ :=
    exists_stance h.owned h.roomy hk hc ha
  refine ⟨_, hown, hroomy, fun j ↦ ?_, fun j ↦ ?_, ?_, ?_⟩
  · change Stands _ (takenFrom j (p.log ++ _)) ((p.become i _).senders j)
    rw [takenFrom_append]
    by_cases hj : j = i
    · subst hj
      rw [become_self, Function.update_self]
      refine ⟨k', rfl, hnext r k' hk', ?_⟩
      rw [htook, htaken, List.append_assoc]
      simp [SendEntry.delivered, Sender.succeeded]
    · rw [become_of_ne _ hj, Function.update_of_ne hj]
      simpa [Ne.symm hj] using h.stands j
  · change ((p.become i _).senders j).requests = _
    by_cases hj : j = i
    · subst hj
      rw [become_self, ← h.order j, hi]
      rfl
    · rw [become_of_ne _ hj]
      exact h.order j
  · change ∀ e ∈ p.log ++ _, _
    simpa [or_imp, forall_and] using ⟨h.handed, hhanded⟩
  · change ∀ e ∈ p.log ++ _, _
    simpa [or_imp, forall_and] using ⟨h.delivered, hdelivered⟩

/-- A step keeps the invariant. -/
theorem Sound.next (h : Sound requests p claim)
    (hsize : ∀ i, ∀ q ∈ requests i, 1 ≤ q.data.val.length ∧ q.data.val.length ≤ 2 ^ 32 - 5)
    (hn : Next p p') : ∃ claim', Sound requests p' claim' := by
  cases hn with
  | enter e hi => exact ⟨claim, h.enter hsize e hi⟩
  | call hi ha => exact h.call hi ha
  | leave hi => exact ⟨claim, h.leave hi⟩

/-- A run keeps it. -/
theorem Sound.run (h : Sound requests p claim)
    (hsize : ∀ i, ∀ q ∈ requests i, 1 ≤ q.data.val.length ∧ q.data.val.length ≤ 2 ^ 32 - 5)
    (hr : Relation.ReflTransGen Next p p') : ∃ claim', Sound requests p' claim' := by
  induction hr with
  | refl => exact ⟨claim, h⟩
  | tail _ hn ih =>
    obtain ⟨claim', h'⟩ := ih
    exact h'.next hsize hn

/-! ### What it says about a run -/

omit [DecidableEq ι] in
private theorem filterMap_delivered {log : List (SendEntry ι)}
    (h : ∀ e ∈ log, ∀ d, e.delivered = some d → d = e.request.handed) :
    log.filterMap (·.delivered) = (taken log).map (·.request.handed) := by
  induction log with
  | nil => rfl
  | cons e log ih =>
    have hrest := ih fun e' he' ↦ h e' (List.mem_cons_of_mem e he')
    cases hd : e.delivered with
    | none =>
      have htaken : taken (e :: log) = taken log := List.filter_cons_of_neg (by simp [hd])
      rw [List.filterMap_cons_none hd, htaken, hrest]
    | some d =>
      have htaken : taken (e :: log) = e :: taken log := List.filter_cons_of_pos (by simp [hd])
      rw [List.filterMap_cons_some hd, htaken, hrest, h e List.mem_cons_self d hd]
      rfl

omit [DecidableEq ι] in
private theorem streamOn_eq {log : List (SendEntry ι)} (fd : Fd)
    (h : ∀ e ∈ log, ∀ d, e.delivered = some d → d = e.request.handed) :
    streamOn fd log = ((taken log).filter fun e ↦ e.request.udp = false ∧
      e.request.infos.tcpSocket = fd).flatMap fun e ↦ Bytes.frame e.request.data.val := by
  have hfilter (e : SendEntry ι) :
      (decide (e.request.handed.dest = none ∧ e.request.handed.fd = fd)) =
        decide (e.request.udp = false ∧ e.request.infos.tcpSocket = fd) := by
    rw [decide_eq_decide]
    cases hudp : e.request.udp with
    | false => simp [Request.handed, hudp]
    | true => simp [Request.handed, hudp]
  rw [streamOn, filterMap_delivered h, List.filter_map, List.flatMap_map]
  simp only [Function.comp_def, hfilter, Request.handed_bytes]

omit [DecidableEq ι] in
private theorem datagrams_eq {log : List (SendEntry ι)}
    (h : ∀ e ∈ log, ∀ d, e.delivered = some d → d = e.request.handed) :
    datagrams log = ((taken log).filter (·.request.udp)).map (·.request.handed) := by
  have hfilter (e : SendEntry ι) : e.request.handed.dest.isSome = e.request.udp := by
    cases hudp : e.request.udp with
    | false => simp [Request.handed, hudp]
    | true => simp [Request.handed, hudp]
  rw [datagrams, filterMap_delivered h, List.filter_map]
  simp only [Function.comp_def, hfilter]

/-- No message is mixed with another. -/
theorem Sound.unmixed (h : Sound requests p claim) : Unmixed requests p where
  handed := h.handed
  stream := fun fd ↦ streamOn_eq fd h.delivered
  datagram := datagrams_eq h.delivered
  once := by
    intro i
    have hst := h.stands i
    unfold Stands at hst
    split at hst
    · next hcur => exact ⟨[], List.nil_sublist _, hst.2.trans (List.append_nil _).symm⟩
    · next q prog hcur =>
      obtain ⟨k, -, -, htook⟩ := hst
      refine ⟨_, ?_, htook⟩
      rw [Sender.sending, hcur]
      split
      · exact List.Sublist.refl _
      · exact List.nil_sublist _
  requests := h.order
  owner := by
    intro i results q c next queue hi
    have hst := h.stands i
    rw [hi] at hst
    obtain ⟨k, hk, ⟨hc, -⟩, -⟩ := hst
    rcases sendContract_allows hc with hlock | ⟨s, hs, hholds⟩
    · exact .inl hlock
    · obtain ⟨hheld, hcell⟩ := h.owned.claimed i q.infos.send s (by rw [hk, hs]; rfl)
      exact .inr ⟨hheld, fun d hd ↦ hcell ▸ hholds d hd⟩
  room := h.roomy

/-- A thread that is let run alone makes the calls of a run of what is left of its send. -/
theorem next_alone {m : SendMemory ι} {i : ι} {results : List (Request × Int)} {q : Request}
    {prog : Program posix (Int × Thread Unit)} {queue : List Request} {o : Int × Thread Unit}
    {tr : Trace posix} (hi : p.senders i = ⟨results, some (q, prog), queue⟩) (ho : prog.Path tr o)
    (ha : (sharedKernel i).Accepts p.memory tr m) :
    Relation.ReflTransGen Next p
      ⟨m, Function.update p.senders i ⟨results, some (q, .ret o), queue⟩,
        p.log ++ tr.map fun e ↦ ⟨i, q, e⟩⟩ := by
  induction prog generalizing p tr with
  | ret o' =>
    obtain ⟨rfl, rfl⟩ := ho
    obtain rfl := ha
    rw [← hi, Function.update_eq_self]
    simpa using Relation.ReflTransGen.refl
  | stop => exact ho.elim
  | call c next ih =>
    obtain ⟨r, rest, rfl, ho⟩ := ho
    obtain ⟨m₁, hk, ha⟩ := ha
    refine .head (.call hi hk) ?_
    have hrest := ih r (p := { p.become i ⟨results, some (q, next r), queue⟩ with
      memory := m₁
      log := p.log ++ [⟨i, q, ⟨c, r⟩⟩] }) (Function.update_self ..) ho ha
    simpa [become] using hrest

end Sending

/-- **In every order of the steps** of any number of threads, whatever allocations, locks and
sends report, messages of 1 to `2 ^ 32 - 5` bytes are never mixed. -/
theorem sends_never_mix {ι : Type} [DecidableEq ι] {requests : ι → List Request}
    (hsize : ∀ i, ∀ q ∈ requests i, 1 ≤ q.data.val.length ∧ q.data.val.length ≤ 2 ^ 32 - 5)
    {p : Sending ι} (h : Relation.ReflTransGen Sending.Next (Sending.start requests) p) :
    p.Unmixed requests := by
  obtain ⟨claim, hsound⟩ := (Sending.sound_start requests).run hsize h
  exact hsound.unmixed

/-- A message by TCP through the send structure at 64. -/
def tcpMessage : Request := ⟨{ UdtcpInfos.zero with tcpSocket := 7, send := 64 }, false,
    Payload.single 1⟩

/-- A message by UDP through the same structure. -/
def udpMessage : Request :=
  ⟨{ UdtcpInfos.zero with udpServerSocket := 8, send := 64 }, true, Payload.single 2⟩

/-- One thread for each message. -/
def sharedStructure : Bool → List Request
  | false => [tcpMessage]
  | true => [udpMessage]

/-- The calls of the first, which finds the structure without a buffer. -/
def tcpSend : Trace posix :=
  [⟨.mutexLock 64, true⟩, ⟨.loadSend 64, .zero⟩, ⟨.sys (.newBuffer 5), .ok (Block.fresh 9 5)⟩,
   ⟨.storeSend 64 (twoMessagesSend fun _ ↦ 0), ()⟩, ⟨.loadSend 64, twoMessagesSend fun _ ↦ 0⟩,
   ⟨.storeSend 64 (twoMessagesSend (oneByteCopied (fun _ ↦ 0) 1)), ()⟩,
   ⟨.loadSend 64, twoMessagesSend (oneByteCopied (fun _ ↦ 0) 1)⟩,
   ⟨.sys (.send 7 [1, 0, 0, 0, 1]), .ok ⟨5, by simp⟩⟩, ⟨.mutexUnlock 64, ()⟩]

/-- The calls of the second, which finds the buffer of the first. -/
def udpSend : Trace posix :=
  let mem := oneByteCopied (fun _ ↦ 0) 1
  [⟨.mutexLock 64, true⟩, ⟨.loadSend 64, twoMessagesSend mem⟩, ⟨.loadSend 64, twoMessagesSend mem⟩,
   ⟨.storeSend 64 (twoMessagesSend (oneByteCopied mem 2)), ()⟩,
   ⟨.loadSend 64, twoMessagesSend (oneByteCopied mem 2)⟩,
   ⟨.sys (.sendto 8 [1, 0, 0, 0, 2] .zero), .ok ⟨5, by simp⟩⟩, ⟨.mutexUnlock 64, ()⟩]

/-- Two threads send through one structure; the second has entered when the first gets the lock. -/
theorem sends_never_mix_shared :
    ∃ p, Relation.ReflTransGen Sending.Next (Sending.start sharedStructure) p ∧
      p.Unmixed sharedStructure ∧ p.log.length = 16 := by
  have hsize : ∀ i, ∀ q ∈ sharedStructure i,
      1 ≤ q.data.val.length ∧ q.data.val.length ≤ 2 ^ 32 - 5 := by
    intro i
    cases i <;> simp [sharedStructure, tcpMessage, udpMessage, Payload.single]
  have htcp : Exec tcpMessage.run ⟨.other 0, ()⟩ tcpSend 5 (⟨.other 0, ()⟩ : Thread Unit) :=
    ⟨_, _, rfl, _, _, rfl, _, _, rfl, _, _, rfl, _, _, rfl, _, _, rfl, _, _, rfl, _, _, rfl,
      _, _, rfl, rfl, rfl⟩
  have hudp : Exec udpMessage.run ⟨.other 0, ()⟩ udpSend 5 (⟨.other 0, ()⟩ : Thread Unit) :=
    ⟨_, _, rfl, _, _, rfl, _, _, rfl, _, _, rfl, _, _, rfl, _, _, rfl, _, _, rfl, rfl, rfl⟩
  have hmemory : ∃ m₁ m₂, (sharedKernel false).Accepts (Sending.start sharedStructure).memory
      tcpSend m₁ ∧ (sharedKernel true).Accepts m₁ udpSend m₂ :=
    ⟨_, _, ⟨_, ⟨rfl, rfl⟩, _, ⟨rfl, rfl⟩, _, rfl, _, rfl, _, ⟨rfl, rfl⟩, _, rfl, _, ⟨rfl, rfl⟩,
      _, ⟨rfl, rfl⟩, _, rfl, rfl⟩, _, ⟨rfl, rfl⟩, _, ⟨rfl, rfl⟩, _, ⟨rfl, rfl⟩, _, rfl,
      _, ⟨rfl, rfl⟩, _, ⟨rfl, rfl⟩, _, rfl, rfl⟩
  obtain ⟨m₁, m₂, h₁, h₂⟩ := hmemory
  have hentered : Relation.ReflTransGen Sending.Next (Sending.start sharedStructure) _ :=
    .single (.enter (i := true) (.other 0) rfl)
  have hboth := hentered.tail (.enter (i := false) (.other 0) rfl)
  have htcpDone := (hboth.trans (Sending.next_alone (i := false) rfl htcp h₁)).tail
    (.leave (i := false) rfl)
  have hrun := (htcpDone.trans (Sending.next_alone (i := true) rfl hudp h₂)).tail
    (.leave (i := true) rfl)
  exact ⟨_, hrun, sends_never_mix hsize hrun, rfl⟩

end Udtcp
