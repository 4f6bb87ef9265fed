import Udtcp.Interaction.Contract
import Udtcp.Threads.StartStop

/-!
# One poll thread at a time

`udtcp/src/server_start_stop.c:36–84` and `udtcp/src/client_start_stop.c:34–83`. A start call
creates a thread only when it finds `poll_loop` clear, and a stop call clears it and then waits for
the thread. So no two passes over one server or client overlap, and none is made after a stop.
-/

namespace Udtcp

open Interaction

/-! ### What is left of a poll thread -/

/-- The pass of a round, and what follows it. -/
def threadPass (fuel : Nat) : StartProg Unit := do
  match ← step .poll with
  | .error => step (.writeIsStarted false)
  | .signal => step (.writeIsStarted false)
  | _ => threadPoll fuel

/-- The remainders of a poll thread: it is at the test of its loop, before a pass, at its last
step, or it has returned. -/
inductive Stage : StartProg Unit → Prop
  | loop (fuel : Nat) : Stage (threadPoll fuel)
  | pass (fuel : Nat) : Stage (threadPass fuel)
  | report : Stage (step (.writeIsStarted false))
  | done : Stage (.ret ())

/-- The calls of a poll thread. It writes nothing but `is_started`. -/
def OfThread (c : StartCall) : Prop := c = .readPollLoop ∨ c = .poll ∨ c = .writeIsStarted false

private theorem stage_after_poll (fuel : Nat) (r : UdtcpPoll) :
    Stage (match r with
      | .error => step (.writeIsStarted false)
      | .signal => step (.writeIsStarted false)
      | _ => threadPoll fuel) := by
  cases r with
  | error => exact .report
  | signal => exact .report
  | success => exact .loop fuel
  | timeout => exact .loop fuel

/-- One call of a poll thread. -/
theorem Stage.call {c : StartCall} {next : c.Reply → StartProg Unit}
    (h : Stage (.call c next)) : OfThread c ∧ ∀ r, Stage (next r) := by
  generalize hth : (Program.call c next : StartProg Unit) = th at h
  cases h with
  | loop fuel =>
    cases fuel with
    | zero => cases hth
    | succ fuel =>
      cases hth
      refine ⟨.inl rfl, fun on ↦ ?_⟩
      cases on with
      | true => exact .pass fuel
      | false => exact .report
  | pass fuel =>
    cases hth
    exact ⟨.inr (.inl rfl), stage_after_poll fuel⟩
  | report =>
    cases hth
    exact ⟨.inr (.inr rfl), fun _ ↦ .done⟩
  | done => cases hth

/-- `poll_loop` is clear and stays so. -/
def clearedFlag : Kernel starting Unit
  | _, .readPollLoop, on, _ => on = false
  | _, _, _, _ => True

section

variable {tr : Trace starting}

/-- The calls in a trace. -/
def callsOf (tr : Trace starting) : List StartCall := tr.map (·.call)

private theorem callsOf_report (h : (step (.writeIsStarted false)).Path tr ()) :
    callsOf tr = [.writeIsStarted false] := by
  obtain ⟨r, rest, rfl, rfl, -⟩ := h
  rfl

private theorem callsOf_loop {fuel : Nat} (h : (threadPoll fuel).Path tr ())
    (ha : clearedFlag.Accepts () tr ()) : callsOf tr = [.readPollLoop, .writeIsStarted false] := by
  cases fuel with
  | zero => exact h.elim
  | succ fuel =>
    obtain ⟨on, rest, rfl, h⟩ := h
    obtain ⟨_, hon, _⟩ := ha
    obtain rfl : on = false := hon
    exact congrArg (StartCall.readPollLoop :: ·) (callsOf_report h)

/-- **A thread ends soon** once `poll_loop` is clear: it makes one more pass at most, and then its
last test and its last step. -/
theorem Stage.calls_sublist {th : StartProg Unit} (h : Stage th) (hp : th.Path tr ())
    (ha : clearedFlag.Accepts () tr ()) :
    (callsOf tr).Sublist [.poll, .readPollLoop, .writeIsStarted false] := by
  cases h with
  | loop fuel =>
    rw [callsOf_loop hp ha]
    exact List.sublist_cons_self _ _
  | pass fuel =>
    obtain ⟨result, rest, rfl, hp⟩ := hp
    obtain ⟨_, _, ha⟩ := ha
    have hrest : (callsOf rest).Sublist [.readPollLoop, .writeIsStarted false] := by
      cases result with
      | error => exact callsOf_report hp ▸ List.sublist_cons_self _ _
      | signal => exact callsOf_report hp ▸ List.sublist_cons_self _ _
      | success => exact callsOf_loop hp ha ▸ List.Sublist.refl _
      | timeout => exact callsOf_loop hp ha ▸ List.Sublist.refl _
    exact hrest.cons_cons _
  | report =>
    rw [callsOf_report hp]
    exact List.sublist_append_right [StartCall.poll, .readPollLoop] _
  | done =>
    obtain ⟨rfl, -⟩ := hp
    exact List.nil_sublist _

end

/-! ### What the controlling thread relies on -/

/-- What the controlling thread knows: whether `poll_loop` is set, and whether a poll thread may be
running. -/
structure Hold where
  flag : Bool
  running : Bool

/-- The flag is set only when no thread is running, and a thread is created only with the flag set
and no other running; a join tells that the thread has returned. -/
def pollContract : Contract starting Hold where
  Allows k
    | .writePollLoop true => k.running = false
    | .pthreadCreate => k = ⟨true, false⟩
    | .poll => False
    | _ => True
  Answers k
    | .readPollLoop, on, k' => on = k.flag ∧ k' = k
    | .writePollLoop on, _, k' => k' = { k with flag := on }
    | .pthreadCreate, created, k' => k' = { k with running := created }
    | .pthreadJoin, _, k' => k' = { k with running := false }
    | _, _, k' => k' = k

/-- Between two calls, `poll_loop` tells whether a poll thread may be running. -/
def Hold.Rests (k : Hold) : Prop := k.flag = k.running

/-- What is known behind a call: a start call that returns `0` has its thread, and a stop call has
none. -/
structure Hold.Settled (starting : Bool) (n : Int) (k : Hold) : Prop where
  rests : k.Rests
  started : starting = true → n = 0 → k.running = true
  stopped : starting = false → k.running = false

private theorem keeps_udtcpStart (role : PollRole) {k : Hold} (h : k.Rests) :
    (udtcpStart role).Keeps pollContract (Hold.Settled true) k := by
  obtain ⟨flag, running⟩ := k
  obtain rfl : flag = running := h
  cases role with
  | server =>
    refine ⟨trivial, ?_⟩
    rintro on k₁ ⟨rfl, rfl⟩
    cases on with
    | true => exact ⟨rfl, nofun, nofun⟩
    | false =>
      refine ⟨rfl, ?_⟩
      rintro _ k₂ rfl
      refine ⟨rfl, ?_⟩
      rintro created k₃ rfl
      cases created with
      | true =>
        refine ⟨trivial, ?_⟩
        rintro _ k₄ rfl
        exact ⟨rfl, fun _ _ ↦ rfl, nofun⟩
      | false =>
        refine ⟨trivial, ?_⟩
        rintro _ k₄ rfl
        exact ⟨rfl, nofun, nofun⟩
  | client =>
    refine ⟨trivial, ?_⟩
    rintro on k₁ ⟨rfl, rfl⟩
    cases on with
    | true => exact ⟨rfl, nofun, nofun⟩
    | false =>
      refine ⟨rfl, ?_⟩
      rintro _ k₂ rfl
      refine ⟨trivial, ?_⟩
      rintro _ k₃ rfl
      refine ⟨rfl, ?_⟩
      rintro created k₄ rfl
      cases created with
      | true => exact ⟨rfl, fun _ _ ↦ rfl, nofun⟩
      | false =>
        refine ⟨trivial, ?_⟩
        rintro _ k₅ rfl
        refine ⟨trivial, ?_⟩
        rintro _ k₆ rfl
        exact ⟨rfl, nofun, nofun⟩

private theorem keeps_udtcpStop {k : Hold} (h : k.Rests) :
    udtcpStop.Keeps pollContract (Hold.Settled false) k := by
  obtain ⟨flag, running⟩ := k
  obtain rfl : flag = running := h
  refine ⟨trivial, ?_⟩
  rintro on k₁ ⟨rfl, rfl⟩
  cases on with
  | true =>
    refine ⟨trivial, ?_⟩
    rintro _ k₂ rfl
    refine ⟨trivial, ?_⟩
    rintro _ k₃ rfl
    refine ⟨trivial, ?_⟩
    rintro _ k₄ rfl
    exact ⟨rfl, nofun, fun _ ↦ rfl⟩
  | false => exact ⟨rfl, nofun, fun _ ↦ rfl⟩

/-! ### The invariant -/

namespace Polling

/-- A poll thread goes on: it is at the test of its loop or before a pass. -/
def Serves (th : StartProg Unit) : Prop := ∃ fuel, th = threadPoll fuel ∨ th = threadPass fuel

/-- A poll thread ends because of the result of its pass: the poll failed or was interrupted. -/
def Quits (p p' : Polling) : Prop :=
  ∃ (i : Nat) (fuel : Nat), p.threads[i]? = some (threadPass fuel) ∧
    p'.threads[i]? = some (step (.writeIsStarted false))

/-- What the controlling thread knows is true. If no thread has quit, one that may be running goes
on as long as `poll_loop` is set. -/
structure Holds (lasting : Prop) (p : Polling) (k : Hold) : Prop where
  caller : p.caller.Keeps pollContract (Hold.Settled p.starting) k
  flag : p.pollLoop = k.flag
  stages : ∀ th ∈ p.threads, Stage th
  older : ∀ th ∈ p.threads.tail, Returned th
  stopped : k.running = false → ∀ th ∈ p.threads, Returned th
  serving : lasting → k.flag = true → k.running = true →
    ∃ th, p.threads.head? = some th ∧ Serves th

/-- A poll thread is running. -/
def Runs (p : Polling) : Prop := ∃ th ∈ p.threads, ¬ Returned th

/-- One poll thread at most: all but the youngest have returned, and behind a stop call all have.
One that is running when `poll_loop` is clear makes one more pass at most. -/
structure Sole (p : Polling) : Prop where
  older : ∀ th ∈ p.threads.tail, Returned th
  stopped : p.starting = false → Returned p.caller → ¬ p.Runs
  prompt : ∀ th ∈ p.threads, ∀ tr, th.Path tr () → clearedFlag.Accepts () tr () →
    (callsOf tr).Sublist [.poll, .readPollLoop, .writeIsStarted false]

variable {role : PollRole} {admits : Polling → StartCall → Prop} {lasting : Prop}
  {p p' : Polling} {k : Hold}

private theorem Serves.not_returned {th : StartProg Unit} (h : Serves th) : ¬ Returned th := by
  obtain ⟨fuel, rfl | rfl⟩ := h
  · cases fuel <;> exact id
  · exact id

private theorem Holds.settled (h : Holds lasting p k) {n : Int} (hn : p.caller = .ret n) :
    k.Settled p.starting n := by
  have hcaller := h.caller
  rw [hn] at hcaller
  exact hcaller

private theorem exists_ret_of_returned {q : StartProg Int} (h : Returned q) : ∃ n, q = .ret n := by
  cases q with
  | ret n => exact ⟨n, rfl⟩
  | stop => exact h.elim
  | call c next => exact h.elim

private theorem Holds.rests (h : Holds lasting p k) (hr : Returned p.caller) : k.Rests := by
  obtain ⟨n, hn⟩ := exists_ret_of_returned hr
  exact (h.settled hn).rests

private theorem holds_start (lasting : Prop) : Holds lasting start ⟨false, false⟩ :=
  ⟨⟨rfl, nofun, fun _ ↦ rfl⟩, rfl, nofun, nofun, fun _ ↦ nofun, fun _ ↦ nofun⟩

private theorem Holds.call (h : Holds lasting p k) {c : StartCall} {next : c.Reply → StartProg Int}
    {r : c.Reply} (hc : p.caller = .call c next) (ha : p.Answers c r p') :
    ∃ k', Holds lasting { p' with caller := next r } k' := by
  have hcaller := h.caller
  rw [hc] at hcaller
  obtain ⟨hallows, hnext⟩ := hcaller
  cases c with
  | readPollLoop =>
    obtain ⟨rfl, rfl⟩ := ha
    exact ⟨k, { h with caller := hnext _ k ⟨h.flag, rfl⟩ }⟩
  | writePollLoop on =>
    obtain rfl := ha
    refine ⟨_, hnext () _ rfl, rfl, h.stages, h.older, h.stopped, fun hl hon hrunning ↦ ?_⟩
    obtain rfl : on = true := hon
    cases hrunning.symm.trans hallows
  | writeIsStarted on =>
    obtain rfl := ha
    exact ⟨k, hnext () k rfl, h.flag, h.stages, h.older, h.stopped, h.serving⟩
  | pthreadCreate =>
    obtain ⟨fuel, rfl⟩ := ha
    obtain rfl : k = ⟨true, false⟩ := hallows
    cases r with
    | false =>
      exact ⟨_, hnext false _ rfl, h.flag, h.stages, h.older, h.stopped, fun _ _ ↦ nofun⟩
    | true =>
      refine ⟨_, hnext true _ rfl, h.flag, ?_, h.stopped rfl, nofun, fun _ _ _ ↦ ?_⟩
      · exact List.forall_mem_cons.mpr ⟨.loop fuel, h.stages⟩
      · exact ⟨_, rfl, fuel, .inl rfl⟩
  | pthreadKill =>
    obtain rfl := ha
    exact ⟨k, hnext () k rfl, h.flag, h.stages, h.older, h.stopped, h.serving⟩
  | pthreadJoin =>
    obtain ⟨hhead, rfl⟩ := ha
    refine ⟨_, hnext () _ rfl, h.flag, h.stages, h.older, fun _ th hth ↦ ?_, fun _ _ ↦ nofun⟩
    have holder := h.older
    change th ∈ p'.threads at hth
    cases hlist : p'.threads with
    | nil => simp [hlist] at hth
    | cons th₀ rest =>
      rw [hlist] at hth holder hhead
      rcases List.mem_cons.mp hth with rfl | hth
      · exact hhead th rfl
      · exact holder th hth
  | poll => exact hallows.elim

private theorem Serves.next {c : StartCall} {next : c.Reply → StartProg Unit} {r : c.Reply}
    (h : Serves (.call c next)) (ha : p.Answers c r p') (hflag : p.pollLoop = true)
    (hquits : ∀ fuel, .call c next = threadPass fuel → next r ≠ step (.writeIsStarted false)) :
    Serves (next r) := by
  obtain ⟨fuel, hth | hth⟩ := h
  · cases fuel with
    | zero => cases hth
    | succ fuel =>
      cases hth
      obtain ⟨rfl, rfl⟩ := ha
      rw [hflag]
      exact ⟨fuel, .inr rfl⟩
  · have hstays := hquits fuel hth
    cases hth
    cases r with
    | error => exact absurd rfl hstays
    | signal => exact absurd rfl hstays
    | success => exact ⟨fuel, .inl rfl⟩
    | timeout => exact ⟨fuel, .inl rfl⟩

private theorem Holds.thread (h : Holds lasting p k) {i : Nat} {c : StartCall}
    {next : c.Reply → StartProg Unit} {r : c.Reply} (hi : p.threads[i]? = some (.call c next))
    (ha : p.Answers c r p')
    (hquits : lasting → ¬ Quits p { p' with threads := p'.threads.set i (next r) }) :
    Holds lasting { p' with threads := p'.threads.set i (next r) } k := by
  obtain ⟨hcall, hnext⟩ := (h.stages _ (List.mem_of_getElem? hi)).call
  have hsame : p'.caller = p.caller ∧ p'.pollLoop = p.pollLoop ∧ p'.threads = p.threads ∧
      p'.starting = p.starting := by
    rcases hcall with rfl | rfl | rfl
    · obtain ⟨-, rfl⟩ := ha
      exact ⟨rfl, rfl, rfl, rfl⟩
    · obtain rfl := ha
      exact ⟨rfl, rfl, rfl, rfl⟩
    · obtain rfl := ha
      exact ⟨rfl, rfl, rfl, rfl⟩
  obtain ⟨hcaller, hflag, hthreads, hstarting⟩ := hsame
  have hlive : ¬ Returned (.call c next) := id
  have hzero : i = 0 := by
    cases i with
    | zero => rfl
    | succ j =>
      rw [← List.getElem?_tail] at hi
      exact absurd (h.older _ (List.mem_of_getElem? hi)) hlive
  have hrunning : k.running = true := by
    by_contra hnot
    exact hlive (h.stopped (by simpa using hnot) _ (List.mem_of_getElem? hi))
  subst hzero
  have hset : (p'.threads.set 0 (next r))[0]? = some (next r) := by
    rw [hthreads, List.getElem?_set_self]
    exact (List.getElem?_eq_some_iff.mp hi).1
  refine ⟨?_, hflag.trans h.flag, fun th hth ↦ ?_, fun th hth ↦ ?_, fun hnot ↦ ?_,
    fun hl hon _ ↦ ?_⟩
  · show p'.caller.Keeps pollContract (Hold.Settled p'.starting) k
    rw [hcaller, hstarting]
    exact h.caller
  · rw [hthreads] at hth
    rcases List.mem_or_eq_of_mem_set hth with hth | rfl
    · exact h.stages th hth
    · exact hnext r
  · rw [hthreads] at hth
    refine h.older th ?_
    cases hlist : p.threads with
    | nil => simp [hlist] at hth
    | cons th₀ rest => simpa [hlist] using hth
  · rw [hrunning] at hnot
    exact Bool.noConfusion hnot
  · obtain ⟨th, hhead, hserves⟩ := h.serving hl hon hrunning
    rw [List.head?_eq_getElem?, hi] at hhead
    obtain rfl := Option.some.inj hhead
    refine ⟨next r, by rw [List.head?_eq_getElem?]; exact hset,
      hserves.next ha ?_ fun fuel hth hend ↦ ?_⟩
    · exact h.flag.trans hon
    · exact hquits hl ⟨0, fuel, by rw [hi, hth], by rw [hset, hend]⟩

/-- A step keeps the invariant. -/
theorem Holds.next (h : Holds lasting p k) (hn : Next role admits p p')
    (hquits : lasting → ¬ Quits p p') : ∃ k', Holds lasting p' k' := by
  cases hn with
  | startCall hr =>
    exact ⟨k, keeps_udtcpStart role (h.rests hr), h.flag, h.stages, h.older, h.stopped, h.serving⟩
  | stopCall hr =>
    exact ⟨k, keeps_udtcpStop (h.rests hr), h.flag, h.stages, h.older, h.stopped, h.serving⟩
  | call hc ha => exact h.call hc ha
  | thread hi ha _ => exact ⟨k, h.thread hi ha hquits⟩

/-- A run keeps it. -/
theorem Holds.run {step : Polling → Polling → Prop} (h : Holds lasting p k)
    (hstep : ∀ p p', step p p' → Next role admits p p' ∧ (lasting → ¬ Quits p p'))
    (hr : Relation.ReflTransGen step p p') : ∃ k', Holds lasting p' k' := by
  induction hr with
  | refl => exact ⟨k, h⟩
  | tail _ hn ih =>
    obtain ⟨k', h'⟩ := ih
    obtain ⟨hnext, hquits⟩ := hstep _ _ hn
    exact h'.next hnext hquits

/-- It gives what is claimed. -/
theorem Holds.sole (h : Holds lasting p k) : Sole p where
  older := h.older
  stopped hstop hr := by
    obtain ⟨n, hn⟩ := exists_ret_of_returned hr
    rintro ⟨th, hth, hlive⟩
    exact hlive (h.stopped ((h.settled hn).stopped hstop) th hth)
  prompt th hth _ := (h.stages th hth).calls_sublist

/-- Behind a start call that returned `0` a thread is running, if none has quit. -/
theorem Holds.runs (h : Holds lasting p k) (hl : lasting) (hstart : p.starting = true)
    (hzero : p.caller = .ret 0) : p.Runs := by
  have hsettled := h.settled hzero
  have hrunning := hsettled.started hstart rfl
  obtain ⟨th, hhead, hserves⟩ := h.serving hl (hsettled.rests.trans hrunning) hrunning
  exact ⟨th, List.mem_of_head? hhead, hserves.not_returned⟩

end Polling

private theorem not_quits_of_threads {p p' : Polling} {ths : List (StartProg Unit)}
    (hths : p'.threads = ths) (hth : ∀ th ∈ ths, th ≠ step (.writeIsStarted false)) :
    ¬ Polling.Quits p p' := by
  rintro ⟨i, fuel, -, hend⟩
  rw [hths] at hend
  exact hth _ (List.mem_of_getElem? hend) rfl

end Udtcp
