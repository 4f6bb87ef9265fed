import Udtcp.Interaction.Bounded
import Udtcp.Threads.Senders

/-!
# Sends come to an end

Threads that send at the same time, `udtcp/src/send.c:33–103`, do not wait for each other forever: a
thread that has a lock makes no call that can block before it gives the lock back, and a send makes
ten calls at most. Whenever something is left to be sent some thread can go on.
-/

namespace Udtcp

open Interaction Routine

/-! ### A send makes ten calls at most -/

section

variable {τ : Type}

private theorem endsWithin_request (c : Call) : EndsWithin (request c : Proc τ _) 1 :=
  fun _ ↦ ⟨0, rfl, fun _ ↦ trivial⟩

private theorem endsWithin_issue (c : Call) : EndsWithin (issue c : Proc τ Unit) 1 :=
  fun _ ↦ ⟨0, rfl, fun _ ↦ trivial⟩

private theorem endsWithin_syscall (c : SysCall) : EndsWithin (syscall c : Proc τ _) 1 :=
  fun _ ↦ ⟨0, rfl, fun _ ↦ trivial⟩

private theorem endsWithin_growSend (addr : UInt64) (n : Nat) :
    EndsWithin (growSend addr n : Proc τ Bool) 4 := by
  refine (endsWithin_request _).bind (l := 3) fun s ↦ .ite ?_ (endsWithin_pure _)
  refine (endsWithin_syscall _).bind (l := 2) fun r ↦ ?_
  cases r with
  | error e => exact endsWithin_pure _
  | ok block =>
    have hstore : EndsWithin (do
        issue (.storeSend addr (s.grown block.val n))
        return true : Proc τ Bool) 1 := (endsWithin_issue _).bind (l := 0) fun _ ↦ endsWithin_pure _
    cases hold : s.buffer with
    | none => exact hstore.mono (by omega)
    | some old => exact (endsWithin_issue _).bind fun _ ↦ hstore

private theorem endsWithin_bufferCopy (addr : UInt64) (data : Payload) :
    EndsWithin (bufferCopy addr data : Proc τ Int) 6 := by
  refine (endsWithin_growSend _ _).bind (l := 2) fun ok ↦ .ite ?_ (endsWithin_pure _)
  refine (endsWithin_request _).bind (l := 1) fun s ↦ ?_
  have hcrash : EndsWithin (crash : Proc τ Int) 1 := fun _ ↦ ⟨0, rfl, nofun⟩
  split
  · exact (endsWithin_issue _).bind (l := 0) fun _ ↦ endsWithin_pure _
  · exact hcrash

private theorem endsWithin_sendWith (addr : UInt64) (data : Payload)
    {emit : List UInt8 → Proc τ Int} (hemit : ∀ bytes, EndsWithin (emit bytes) 1) :
    EndsWithin (sendWith addr data emit) 10 := by
  refine (endsWithin_request _).bind (l := 9) fun locked ↦ .ite ?_ (endsWithin_pure _)
  refine (endsWithin_bufferCopy addr data).bind (l := 3) fun n ↦ .ite ?_ ?_
  · exact (endsWithin_issue _).bind (l := 2) fun _ ↦ endsWithin_pure _
  · refine (endsWithin_request _).bind (l := 2) fun s ↦ (hemit _).bind (l := 1) fun ret ↦ ?_
    exact (endsWithin_issue _).bind (l := 0) fun _ ↦ endsWithin_pure _

private theorem Request.endsWithin_run (q : Request) : EndsWithin (q.run : Proc τ Int) 10 := by
  refine .ite (endsWithin_sendWith _ _ fun bytes ↦ ?_) (endsWithin_sendWith _ _ fun bytes ↦ ?_)
  · refine (endsWithin_syscall _).bind (l := 0) fun r ↦ ?_
    cases r <;> exact endsWithin_pure _
  · refine (endsWithin_syscall _).bind (l := 0) fun r ↦ ?_
    cases r <;> exact endsWithin_pure _

end

/-! ### What is left of a thread -/

/-- A thread that has nothing left to do. -/
def Sender.Finished (s : Sender) : Prop := s.current = none ∧ s.queue = []

/-- The send that is going on ends within `n` calls. -/
def Sender.EndsWithin (s : Sender) (n : Nat) : Prop :=
  ∀ q prog, s.current = some (q, prog) → prog.EndsWithin n

/-- A lock that was not given. -/
def SendEntry.Refused {ι : Type} (e : SendEntry ι) : Prop :=
  ∃ a, e.event = ⟨.mutexLock a, false⟩

namespace Sending

variable {ι : Type} [DecidableEq ι] {requests : ι → List Request} {p p' : Sending ι}
  {claim : ι → Option (UInt64 × UdtcpSend)}

/-- The calls of thread `i`. -/
def callsBy (i : ι) (log : List (SendEntry ι)) : List (SendEntry ι) := log.filter (·.sender = i)

/-- Sends come to an end: every thread makes ten calls at most for each of its messages; while some
thread has something left to do, a step is possible that is not the refusal of a lock; and when all
is done every lock is free. -/
structure Lively (requests : ι → List Request) (p : Sending ι) : Prop where
  bounded : ∀ i, (callsBy i p.log).length ≤ 10 * (requests i).length
  goesOn : (∃ i, ¬ (p.senders i).Finished) →
    ∃ p', Next p p' ∧ ∀ e, p'.log = p.log ++ [e] → ¬ e.Refused
  released : (∀ i, (p.senders i).Finished) → ∀ a, p.memory.holder a = none

/-- The calls a thread has made, those of its send and ten for each message to come are ten for
each message at most. -/
def Paced (requests : ι → List Request) (p : Sending ι) : Prop :=
  ∀ i, ∃ n, (p.senders i).EndsWithin n ∧
    (callsBy i p.log).length + n + 10 * (p.senders i).queue.length ≤ 10 * (requests i).length

private theorem paced_start (requests : ι → List Request) : Paced requests (start requests) :=
  fun _ ↦ ⟨0, nofun, Nat.le_of_eq (Nat.zero_add _)⟩

private theorem senders_become {i j : ι} (s : Sender) :
    (p.become i s).senders j = if j = i then s else p.senders j := by
  by_cases hj : j = i
  · rw [if_pos hj, hj]
    exact Function.update_self ..
  · rw [if_neg hj]
    exact Function.update_of_ne hj ..

private theorem callsBy_append (i : ι) (log : List (SendEntry ι)) (e : SendEntry ι) :
    (callsBy i (log ++ [e])).length = (callsBy i log).length + if e.sender = i then 1 else 0 := by
  by_cases he : e.sender = i
  · simp [callsBy, he]
  · simp [callsBy, he]

/-- A step keeps the invariant. -/
theorem Paced.next (h : Paced requests p) (hn : Next p p') : Paced requests p' := by
  intro j
  obtain ⟨n, hends, hle⟩ := h j
  cases hn with
  | @enter i results q queue e hi =>
    rw [senders_become]
    split
    · next hj =>
      subst hj
      rw [hi] at hle
      refine ⟨10, fun q' prog hq ↦ ?_, ?_⟩
      · cases hq
        exact q.endsWithin_run _
      · show (callsBy j p.log).length + 10 + 10 * queue.length ≤ _
        have hle : (callsBy j p.log).length + n + 10 * (queue.length + 1) ≤ _ := hle
        omega
    · exact ⟨n, hends, hle⟩
  | @call m i results q c next queue r hi ha =>
    change ∃ n, ((p.become i _).senders j).EndsWithin n ∧ (callsBy j (p.log ++ _)).length + n +
      10 * ((p.become i _).senders j).queue.length ≤ _
    rw [senders_become, callsBy_append]
    by_cases hj : j = i
    · subst hj
      rw [hi] at hends hle
      obtain ⟨left, rfl, hnext⟩ := hends q _ rfl
      refine ⟨left, fun q' prog hq ↦ ?_, ?_⟩
      · rw [if_pos rfl] at hq
        cases hq
        exact hnext r
      · rw [if_pos rfl, if_pos rfl]
        have hle : (callsBy j p.log).length + (left + 1) + 10 * queue.length ≤ _ := hle
        show (callsBy j p.log).length + 1 + left + 10 * queue.length ≤ _
        omega
    · rw [if_neg hj, if_neg (Ne.symm hj)]
      exact ⟨n, hends, hle⟩
  | @leave i results q n' t queue hi =>
    rw [senders_become]
    split
    · next hj =>
      subst hj
      rw [hi] at hle
      exact ⟨n, nofun, hle⟩
    · exact ⟨n, hends, hle⟩

/-- A run keeps it. -/
theorem Paced.run (h : Paced requests p) (hr : Relation.ReflTransGen Next p p') :
    Paced requests p' := by
  induction hr with
  | refl => exact h
  | tail _ hn ih => exact ih.next hn

/-! ### Some thread can go on -/

omit [DecidableEq ι] in
private theorem exists_answer {q : Request} {k : Stance} {c : Call} (i : ι) (m : SendMemory ι)
    (hc : (sendContract q).Allows k c) (hfree : ∀ a, c = .mutexLock a → m.holder a = none) :
    ∃ r m', sharedKernel i m c r m' ∧ ¬ (⟨i, q, ⟨c, r⟩⟩ : SendEntry ι).Refused := by
  have hother (c : Call) (r : c.Reply) (hne : ∀ a, c ≠ .mutexLock a) :
      ¬ (⟨i, q, ⟨c, r⟩⟩ : SendEntry ι).Refused := by
    rintro ⟨a, he⟩
    exact hne a (congrArg Event.call he)
  cases c with
  | mutexLock a =>
    refine ⟨true, _, ⟨hfree a rfl, rfl⟩, ?_⟩
    rintro ⟨b, he⟩
    cases he
  | mutexUnlock a => exact ⟨(), _, rfl, hother _ _ nofun⟩
  | loadSend a => exact ⟨m.cells a, m, ⟨rfl, rfl⟩, hother _ _ nofun⟩
  | storeSend a s => exact ⟨(), _, rfl, hother _ _ nofun⟩
  | freeBuffer ptr => exact ⟨(), m, rfl, hother _ _ nofun⟩
  | sys c =>
    cases c with
    | newBuffer size => exact ⟨.error (.other 0), m, rfl, hother _ _ nofun⟩
    | send fd bytes => exact ⟨.error (.other 0), m, rfl, hother _ _ nofun⟩
    | sendto fd bytes dest => exact ⟨.error (.other 0), m, rfl, hother _ _ nofun⟩
    | _ => exact hc.elim
  | _ => exact hc.elim

private theorem exists_next (h : Sound requests p claim) (hpaced : Paced requests p) {i : ι}
    {q : Request} {prog : Program posix (Int × Thread Unit)}
    (hcurrent : (p.senders i).current = some (q, prog))
    (hfree : ∀ a next, prog = .call (.mutexLock a) next → p.memory.holder a = none) :
    ∃ p', Next p p' ∧ ∀ e, p'.log = p.log ++ [e] → ¬ e.Refused := by
  obtain ⟨n, hends, -⟩ := hpaced i
  have hends := hends q prog hcurrent
  have hstands := h.stands i
  cases hi : p.senders i with
  | mk results current queue =>
  obtain rfl : current = some (q, prog) := by rw [← hcurrent, hi]
  rw [hi] at hstands
  obtain ⟨k, hclaim, hkeeps, -⟩ := hstands
  cases prog with
  | ret o =>
    refine ⟨_, .leave (n := o.1) (t := o.2) hi, fun e he ↦ ?_⟩
    have hlen := congrArg List.length he
    rw [List.length_append, List.length_singleton] at hlen
    exact absurd hlen (Nat.ne_of_lt (Nat.lt_succ_self p.log.length))
  | stop => exact hends.elim
  | call c next =>
    obtain ⟨r, m, hanswer, hgiven⟩ := exists_answer i p.memory hkeeps.1
      (fun a hc ↦ hfree a (hc ▸ next) (by subst hc; rfl))
    refine ⟨_, .call hi hanswer, fun e he ↦ ?_⟩
    obtain rfl : ⟨i, q, ⟨c, r⟩⟩ = e := List.singleton_inj.mp (List.append_cancel_left he)
    exact hgiven

private theorem holder_past (h : Sound requests p claim) {a : UInt64} {j : ι}
    (hheld : p.memory.holder a = some j) : ∃ q prog, (p.senders j).current = some (q, prog) ∧
      ∀ b next, prog ≠ .call (.mutexLock b) next := by
  obtain ⟨v, hclaim⟩ := h.owned.held a j hheld
  have hstands := h.stands j
  unfold Stands at hstands
  split at hstands
  · next hcurrent =>
    rw [hclaim] at hstands
    cases hstands.1
  · next q prog hcurrent =>
    obtain ⟨k, hk, hkeeps, -⟩ := hstands
    refine ⟨q, prog, hcurrent, ?_⟩
    rintro b next rfl
    have hnone : k.cell = none := hkeeps.1.2
    rw [hclaim, hnone] at hk
    cases hk

private theorem Sound.goesOn (h : Sound requests p claim) (hpaced : Paced requests p)
    (hleft : ∃ i, ¬ (p.senders i).Finished) :
    ∃ p', Next p p' ∧ ∀ e, p'.log = p.log ++ [e] → ¬ e.Refused := by
  obtain ⟨i, hi⟩ := hleft
  cases hcurrent : (p.senders i).current with
  | none =>
    cases hqueue : (p.senders i).queue with
    | nil => exact absurd ⟨hcurrent, hqueue⟩ hi
    | cons q queue =>
      have hi : p.senders i = ⟨(p.senders i).results, none, q :: queue⟩ := by
        rw [← hcurrent, ← hqueue]
      refine ⟨_, .enter (.other 0) hi, fun e he ↦ ?_⟩
      have hlen := congrArg List.length he
      rw [List.length_append, List.length_singleton] at hlen
      exact absurd hlen (Nat.ne_of_lt (Nat.lt_succ_self p.log.length))
  | some current =>
    obtain ⟨q, prog⟩ := current
    by_cases hwaits : ∃ a next, prog = .call (.mutexLock a) next ∧ p.memory.holder a ≠ none
    · -- the holder of the lock it waits for is past its own
      obtain ⟨a, next, -, hheld⟩ := hwaits
      obtain ⟨j, hj⟩ := Option.ne_none_iff_exists'.mp hheld
      obtain ⟨q', prog', hcurrent', hpast⟩ := holder_past h hj
      exact exists_next h hpaced hcurrent' fun b next' hlock ↦ absurd hlock (hpast b next')
    · refine exists_next h hpaced hcurrent fun a next hlock ↦ ?_
      by_contra hheld
      exact hwaits ⟨a, next, hlock, hheld⟩

/-- When all is done nobody claims anything. -/
theorem Sound.released (h : Sound requests p claim) (hdone : ∀ i, (p.senders i).Finished)
    (a : UInt64) : p.memory.holder a = none := by
  cases hheld : p.memory.holder a with
  | none => rfl
  | some j =>
    obtain ⟨q, prog, hcurrent, -⟩ := holder_past h hheld
    rw [(hdone j).1] at hcurrent
    cases hcurrent

end Sending

/-- **Sends never wait for each other forever.** In every order of the steps of any number of
threads, for messages of 1 to `2 ^ 32 - 5` bytes. -/
theorem sends_come_to_end {ι : Type} [DecidableEq ι] {requests : ι → List Request}
    (hsize : ∀ i, ∀ q ∈ requests i, 1 ≤ q.data.val.length ∧ q.data.val.length ≤ 2 ^ 32 - 5)
    {p : Sending ι} (h : Relation.ReflTransGen Sending.Next (Sending.start requests) p) :
    p.Lively requests := by
  obtain ⟨claim, hsound⟩ := (Sending.sound_start requests).run hsize h
  have hpaced := (Sending.paced_start requests).run h
  refine ⟨fun i ↦ ?_, hsound.goesOn hpaced, hsound.released⟩
  obtain ⟨n, -, hle⟩ := hpaced i
  omega

/-- One thread has the lock, the other one waits for it. -/
theorem sends_come_to_end_waiting :
    ∃ p, Relation.ReflTransGen Sending.Next (Sending.start sharedStructure) p ∧
      p.memory.holder 64 = some true ∧ p.Lively sharedStructure := by
  have hsize : ∀ i, ∀ q ∈ sharedStructure i,
      1 ≤ q.data.val.length ∧ q.data.val.length ≤ 2 ^ 32 - 5 := by
    intro i
    cases i <;> simp [sharedStructure, tcpMessage, udpMessage, Payload.single]
  have hentered : Relation.ReflTransGen Sending.Next (Sending.start sharedStructure) _ :=
    .single (.enter (i := true) (.other 0) rfl)
  have hboth := hentered.tail (.enter (i := false) (.other 0) rfl)
  have hlocked := hboth.tail (.call (i := true) (c := .mutexLock 64) (r := true) rfl ⟨rfl, rfl⟩)
  exact ⟨_, hlocked, rfl, sends_come_to_end hsize hlocked⟩

end Udtcp
