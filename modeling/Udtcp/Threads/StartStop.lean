import Udtcp.Server.Poll

/-!
# Starting and stopping the poll thread

`udtcp/src/server_start_stop.c` and `udtcp/src/client_start_stop.c`. The two differ in one place:
the client sets `is_started` before `pthread_create` (`client_start_stop.c:61–68`), the server
after it (`server_start_stop.c:62–69`). Every access to `poll_loop` and `is_started` and every
call is one step; the thread that calls the library and the poll threads take turns in any order.
-/

namespace Udtcp

open Interaction

/-- The two files. -/
inductive PollRole where
  | server
  | client
  deriving DecidableEq, Repr

/-- The steps of the start and stop functions and of the poll threads. -/
inductive StartCall where
  | readPollLoop
  | writePollLoop (on : Bool)
  | writeIsStarted (on : Bool)
  | pthreadCreate
  | pthreadKill
  | pthreadJoin
  | poll
  deriving DecidableEq, Repr

/-- Replies; `pthread_create` reports whether it succeeded. -/
@[reducible] def StartCall.Reply : StartCall → Type
  | .readPollLoop => Bool
  | .pthreadCreate => Bool
  | .poll => UdtcpPoll
  | _ => Unit

/-- The signature of the steps. -/
@[reducible] def starting : Signature := ⟨StartCall, StartCall.Reply⟩

/-- Programs of the threads involved. -/
abbrev StartProg (α : Type) := Program starting α

/-- One step. -/
def step (c : StartCall) : StartProg c.Reply := Program.perform (S := starting) c

/-- `thread_server_poll`, `server_start_stop.c:36–51`, and `thread_client_poll`,
`client_start_stop.c:34–49`, followed for at most `fuel` passes. -/
def threadPoll : Nat → StartProg Unit
  | 0 => .stop
  | fuel + 1 => do
    if ← step .readPollLoop then
      match ← step .poll with
      | .error => step (.writeIsStarted false)
      | .signal => step (.writeIsStarted false)
      | _ => threadPoll fuel
    else
      step (.writeIsStarted false)

/-- `udtcp_start_server`, `server_start_stop.c:53–71`. -/
def udtcpStartServer : StartProg Int := do
  if ← step .readPollLoop then
    return -1
  else
    step (.writePollLoop true)
    if ← step .pthreadCreate then
      step (.writeIsStarted true)
      return 0
    else
      step (.writePollLoop false)
      return -1

/-- `udtcp_start_client`, `client_start_stop.c:51–70`. -/
def udtcpStartClient : StartProg Int := do
  if ← step .readPollLoop then
    return -1
  else
    step (.writePollLoop true)
    step (.writeIsStarted true)
    if ← step .pthreadCreate then
      return 0
    else
      step (.writePollLoop false)
      step (.writeIsStarted false)
      return -1

/-- `udtcp_stop_server`, `server_start_stop.c:73–84`, and `udtcp_stop_client`,
`client_start_stop.c:72–83`. -/
def udtcpStop : StartProg Int := do
  if ← step .readPollLoop then
    step (.writePollLoop false)
    step .pthreadKill
    step .pthreadJoin
    return 0
  else
    return 0

/-- The start function of a role. -/
def udtcpStart : PollRole → StartProg Int
  | .server => udtcpStartServer
  | .client => udtcpStartClient

/-! ### Threads taking turns -/

/-- A program that has returned. -/
def Returned {α : Type} : StartProg α → Prop
  | .ret _ => True
  | _ => False

/-- The two flags; what is left of the call the controlling thread is in, and whether that is a
start; and what is left of the poll threads, the youngest first. -/
structure Polling where
  pollLoop : Bool
  isStarted : Bool
  caller : StartProg Int
  starting : Bool
  threads : List (StartProg Unit)

namespace Polling

/-- After `udtcp_create_server` or `udtcp_create_client`. -/
def start : Polling := ⟨false, false, .ret 0, false, []⟩

/-- A start call is in progress. -/
def InStart (p : Polling) : Prop := p.starting = true ∧ ¬ Returned p.caller

/-- The next step of the controlling thread is `is_started = 1`. -/
def AboutToReport (p : Polling) : Prop := ∃ next, p.caller = .call (.writeIsStarted true) next

private theorem not_aboutToReport_of_returned {p : Polling} (h : Returned p.caller) :
    ¬ p.AboutToReport := by
  rintro ⟨next, hc⟩
  rw [hc] at h
  exact h

/-- The answer to a step and what it does to the flags. `pthread_join` returns when the thread
has, and a poll may report anything. -/
def Answers (p : Polling) : (c : StartCall) → c.Reply → Polling → Prop
  | .readPollLoop, r, p' => r = p.pollLoop ∧ p' = p
  | .writePollLoop on, _, p' => p' = { p with pollLoop := on }
  | .writeIsStarted on, _, p' => p' = { p with isStarted := on }
  | .pthreadCreate, r, p' => ∃ fuel,
      p' = if r then { p with threads := threadPoll fuel :: p.threads } else p
  | .pthreadKill, _, p' => p' = p
  | .pthreadJoin, _, p' => (∀ th, p.threads.head? = some th → Returned th) ∧ p' = p
  | .poll, _, p' => p' = p

/-- One step of the system: the controlling thread enters a function or goes on in one, or a poll
thread goes on as far as `admits` lets it. -/
inductive Next (role : PollRole) (admits : Polling → StartCall → Prop) : Polling → Polling → Prop
  | startCall {p : Polling} (h : Returned p.caller) :
      Next role admits p { p with caller := udtcpStart role, starting := true }
  | stopCall {p : Polling} (h : Returned p.caller) :
      Next role admits p { p with caller := udtcpStop, starting := false }
  | call {p p' : Polling} {c : StartCall} {next : c.Reply → StartProg Int} {r : c.Reply}
      (h : p.caller = .call c next) (ha : p.Answers c r p') :
      Next role admits p { p' with caller := next r }
  | thread {p p' : Polling} {i : Nat} {c : StartCall} {next : c.Reply → StartProg Unit}
      {r : c.Reply} (h : p.threads[i]? = some (.call c next)) (ha : p.Answers c r p')
      (hc : admits p c) : Next role admits p { p' with threads := p'.threads.set i (next r) }

/-- In every order of steps. -/
def AnyOrder (_ : Polling) (_ : StartCall) : Prop := True

/-- No poll thread of a server takes its last step between `pthread_create` and `is_started = 1`
of the start call. -/
def InOrder (role : PollRole) (p : Polling) (c : StartCall) : Prop :=
  role = .server → c = .writeIsStarted false → ¬ p.AboutToReport

end Polling

/-! ### What is left of a call -/

/-- A thread that returns has cleared `is_started` with its last step, and does not set it. -/
def Signs : StartProg Unit → Prop
  | .ret _ => True
  | .stop => True
  | .call c next => c ≠ .writeIsStarted true ∧ c ≠ .pthreadCreate ∧
      ∀ r, Signs (next r) ∧ (Returned (next r) → c = .writeIsStarted false)

private theorem signs_threadPoll (fuel : Nat) : Signs (threadPoll fuel) := by
  have hend : Signs (step (.writeIsStarted false)) :=
    ⟨nofun, nofun, fun _ ↦ ⟨trivial, fun _ ↦ rfl⟩⟩
  induction fuel with
  | zero => trivial
  | succ fuel ih =>
    refine ⟨nofun, nofun, fun on ↦ ?_⟩
    cases on with
    | false => exact ⟨hend, fun h ↦ h.elim⟩
    | true =>
      refine ⟨⟨nofun, nofun, fun result ↦ ?_⟩, fun h ↦ h.elim⟩
      cases result with
      | error => exact ⟨hend, fun h ↦ h.elim⟩
      | signal => exact ⟨hend, fun h ↦ h.elim⟩
      | success => exact ⟨ih, fun h ↦ by cases fuel <;> exact h.elim⟩
      | timeout => exact ⟨ih, fun h ↦ by cases fuel <;> exact h.elim⟩

/-- How `is_started` stands to the poll threads in the middle of a call: it is true only with a
thread running, or it may be ahead of the thread to be created, or it is to be set with a thread
that is sure to be running. -/
inductive Standing where
  | settled
  | ahead
  | running
  deriving DecidableEq

/-- What is left of a call of `role` brings the status back in order. -/
def Truthful (role : PollRole) (starting : Bool) : Standing → StartProg Int → Prop
  | st, .ret _ => st = .settled
  | st, .stop => st = .settled
  | st, .call (.writeIsStarted true) next => starting = true ∧
      Truthful role starting (if st = .running then .settled else .ahead) (next ())
  | st, .call (.writeIsStarted false) next =>
      st ≠ .running ∧ Truthful role starting .settled (next ())
  | st, .call .pthreadCreate next => st ≠ .running ∧ starting = true ∧
      Truthful role starting (if role = .server then .running else .settled) (next true) ∧
      Truthful role starting st (next false)
  | st, .call .readPollLoop next => st ≠ .running ∧ ∀ r, Truthful role starting st (next r)
  | st, .call (.writePollLoop _) next => st ≠ .running ∧ Truthful role starting st (next ())
  | st, .call .pthreadKill next => st ≠ .running ∧ Truthful role starting st (next ())
  | st, .call .pthreadJoin next => st ≠ .running ∧ Truthful role starting st (next ())
  | st, .call .poll next => st ≠ .running ∧ ∀ r, Truthful role starting st (next r)

private theorem truthful_udtcpStart (role : PollRole) :
    Truthful role true .settled (udtcpStart role) := by
  cases role with
  | server =>
    refine ⟨nofun, fun on ↦ ?_⟩
    cases on with
    | true => exact rfl
    | false => exact ⟨nofun, nofun, rfl, ⟨rfl, rfl⟩, nofun, rfl⟩
  | client =>
    refine ⟨nofun, fun on ↦ ?_⟩
    cases on with
    | true => exact rfl
    | false => exact ⟨nofun, rfl, nofun, rfl, rfl, nofun, nofun, rfl⟩

private theorem truthful_udtcpStop (role : PollRole) (starting : Bool) :
    Truthful role starting .settled udtcpStop := by
  refine ⟨nofun, fun on ↦ ?_⟩
  cases on with
  | true => exact ⟨nofun, nofun, nofun, rfl⟩
  | false => exact rfl

/-- Only a call that is about to report has a thread that is sure to be running. -/
theorem Truthful.aboutToReport {role : PollRole} {p : Polling} {starting : Bool}
    (h : Truthful role starting .running p.caller) : p.AboutToReport := by
  unfold Polling.AboutToReport
  generalize p.caller = q at h
  match q, h with
  | .call (.writeIsStarted true) next, _ => exact ⟨next, rfl⟩
  | .call (.writeIsStarted false) _, h => exact absurd rfl h.1
  | .call .pthreadCreate _, h => exact absurd rfl h.1
  | .call .readPollLoop _, h => exact absurd rfl h.1
  | .call (.writePollLoop _) _, h => exact absurd rfl h.1
  | .call .pthreadKill _, h => exact absurd rfl h.1
  | .call .pthreadJoin _, h => exact absurd rfl h.1
  | .call .poll _, h => exact absurd rfl h.1

/-! ### The status is truthful -/

namespace Polling

/-- Some poll thread has not returned. -/
def Live (p : Polling) : Prop := ∃ th ∈ p.threads, ¬ Returned th

/-- The invariant of every order of steps. -/
structure Sound (role : PollRole) (p : Polling) : Prop where
  threads : ∀ th ∈ p.threads, Signs th
  caller : ∃ st, Truthful role p.starting st p.caller ∧
    (st = .settled → p.isStarted = true → p.Live) ∧
    (st = .ahead → p.starting = true) ∧
    (st = .running → role = .server ∧ p.starting = true ∧ p.Live)

/-- No thread runs in the beginning. -/
theorem sound_start (role : PollRole) : Sound role start :=
  ⟨nofun, .settled, rfl, fun _ h ↦ Bool.noConfusion h, nofun, nofun⟩

private theorem Sound.enter {role : PollRole} {p : Polling} (h : Sound role p)
    (hr : Returned p.caller) {q : StartProg Int} {starting : Bool}
    (hq : Truthful role starting .settled q) :
    Sound role { p with caller := q, starting := starting } := by
  obtain ⟨st, htrue, hset, -, -⟩ := h.caller
  have hst : st = .settled := by
    generalize p.caller = q' at hr htrue
    match q', hr, htrue with
    | .ret _, _, htrue => exact htrue
  exact ⟨h.threads, .settled, hq, fun _ ↦ hset hst, nofun, nofun⟩

private theorem Sound.call {role : PollRole} {p p' : Polling} (h : Sound role p) {c : StartCall}
    {next : c.Reply → StartProg Int} {r : c.Reply} (hc : p.caller = .call c next)
    (ha : p.Answers c r p') : Sound role { p' with caller := next r } := by
  obtain ⟨st, htrue, hset, hahead, hrun⟩ := h.caller
  rw [hc] at htrue
  cases c with
  | readPollLoop =>
    obtain ⟨-, rfl⟩ := ha
    exact ⟨h.threads, st, htrue.2 r, hset, hahead, hrun⟩
  | writePollLoop on =>
    obtain rfl := ha
    exact ⟨h.threads, st, htrue.2, hset, hahead, hrun⟩
  | writeIsStarted on =>
    obtain rfl := ha
    cases on with
    | true =>
      refine ⟨h.threads, _, htrue.2, fun hst _ ↦ ?_, fun _ ↦ htrue.1, fun hst ↦ ?_⟩
      · split at hst
        · next hrunning => exact (hrun hrunning).2.2
        · cases hst
      · split at hst <;> cases hst
    | false => exact ⟨h.threads, .settled, htrue.2, fun _ h ↦ Bool.noConfusion h, nofun, nofun⟩
  | pthreadCreate =>
    obtain ⟨fuel, rfl⟩ := ha
    obtain ⟨hne, hstart, hok, hfail⟩ := htrue
    cases r with
    | false => exact ⟨h.threads, st, hfail, hset, hahead, hrun⟩
    | true =>
      have hlive : Live { p with threads := threadPoll fuel :: p.threads } :=
        ⟨threadPoll fuel, List.mem_cons_self, by cases fuel <;> exact id⟩
      refine ⟨?_, _, hok, fun _ _ ↦ hlive, fun _ ↦ hstart, fun hst ↦ ?_⟩
      · exact List.forall_mem_cons.mpr ⟨signs_threadPoll fuel, h.threads⟩
      · split at hst
        · next hrole => exact ⟨hrole, hstart, hlive⟩
        · cases hst
  | pthreadKill =>
    obtain rfl := ha
    exact ⟨h.threads, st, htrue.2, hset, hahead, hrun⟩
  | pthreadJoin =>
    obtain ⟨-, rfl⟩ := ha
    exact ⟨h.threads, st, htrue.2, hset, hahead, hrun⟩
  | poll =>
    obtain rfl := ha
    exact ⟨h.threads, st, htrue.2 r, hset, hahead, hrun⟩

private theorem Live.set {threads : List (StartProg Unit)} {i : Nat} {q q' : StartProg Unit}
    (hi : threads[i]? = some q) (hq : ¬ Returned q') :
    ∃ th ∈ threads.set i q', ¬ Returned th := by
  obtain ⟨hlt, -⟩ := List.getElem?_eq_some_iff.mp hi
  exact ⟨q', List.mem_set hlt q', hq⟩

private theorem Sound.thread {role : PollRole} {p p' : Polling} (h : Sound role p) {i : Nat}
    {c : StartCall} {next : c.Reply → StartProg Unit} {r : c.Reply}
    (hi : p.threads[i]? = some (.call c next)) (ha : p.Answers c r p') (hc : InOrder role p c) :
    Sound role { p' with threads := p'.threads.set i (next r) } := by
  obtain ⟨hset_ne, hcreate_ne, hsigns⟩ : Signs (.call c next) :=
    h.threads _ (List.mem_of_getElem? hi)
  -- every step a poll thread makes leaves all but `isStarted` and its own program alone
  have hsame : p'.threads = p.threads ∧ p'.caller = p.caller ∧ p'.starting = p.starting ∧
      (p'.isStarted = true → p.isStarted = true ∧ c ≠ .writeIsStarted false) := by
    cases c with
    | readPollLoop => obtain ⟨-, rfl⟩ := ha; exact ⟨rfl, rfl, rfl, fun h ↦ ⟨h, nofun⟩⟩
    | writePollLoop on => obtain rfl := ha; exact ⟨rfl, rfl, rfl, fun h ↦ ⟨h, nofun⟩⟩
    | writeIsStarted on =>
      obtain rfl := ha
      cases on with
      | true => exact absurd rfl hset_ne
      | false => exact ⟨rfl, rfl, rfl, fun h ↦ Bool.noConfusion h⟩
    | pthreadCreate => exact absurd rfl hcreate_ne
    | pthreadKill => obtain rfl := ha; exact ⟨rfl, rfl, rfl, fun h ↦ ⟨h, nofun⟩⟩
    | pthreadJoin => obtain ⟨-, rfl⟩ := ha; exact ⟨rfl, rfl, rfl, fun h ↦ ⟨h, nofun⟩⟩
    | poll => obtain rfl := ha; exact ⟨rfl, rfl, rfl, fun h ↦ ⟨h, nofun⟩⟩
  obtain ⟨hthreads, hcaller, hstarting, hstarted⟩ := hsame
  have hlive (hne : c ≠ .writeIsStarted false) :
      ∃ th ∈ p.threads.set i (next r), ¬ Returned th :=
    Live.set hi fun hret ↦ hne ((hsigns r).2 hret)
  obtain ⟨st, htrue, hset, hahead, hrun⟩ := h.caller
  refine ⟨fun th hth ↦ ?_, st, ?_, fun hst hs ↦ ?_, ?_, fun hst ↦ ?_⟩
  · rw [hthreads] at hth
    rcases List.mem_or_eq_of_mem_set hth with hth | rfl
    · exact h.threads th hth
    · exact (hsigns r).1
  · rw [hcaller, hstarting]
    exact htrue
  · rw [hthreads] at *
    exact hlive (hstarted hs).2
  · rw [hstarting]
    exact hahead
  · obtain ⟨hrole, hstart, -⟩ := hrun hst
    subst hst
    have hne : c ≠ .writeIsStarted false := fun hc' ↦ hc hrole hc' htrue.aboutToReport
    exact ⟨hrole, hstarting.trans hstart, by rw [hthreads]; exact hlive hne⟩

/-- A step keeps the invariant. -/
theorem Sound.next {role : PollRole} {p p' : Polling} (h : Sound role p)
    (hn : Next role (InOrder role) p p') : Sound role p' := by
  cases hn with
  | startCall hr => exact h.enter hr (truthful_udtcpStart role)
  | stopCall hr => exact h.enter hr (truthful_udtcpStop role false)
  | call hc ha => exact h.call hc ha
  | thread hi ha hc => exact h.thread hi ha hc

/-- A run keeps it. -/
theorem Sound.run {role : PollRole} {p p' : Polling} (h : Sound role p)
    (hr : Relation.ReflTransGen (Next role (InOrder role)) p p') : Sound role p' := by
  induction hr with
  | refl => exact h
  | tail _ hn ih => exact ih.next hn

end Polling

/-- In every order of steps of a client, and of a server whose threads do not end between
`pthread_create` and `is_started = 1` of the start call, `is_started` is clear whenever no thread
is running and no start call is in progress. -/
theorem isStarted_eq_false_of_no_thread (role : PollRole) {p : Polling}
    (h : Relation.ReflTransGen (Polling.Next role (Polling.InOrder role)) Polling.start p)
    (hthreads : ∀ th ∈ p.threads, Returned th) (hstart : ¬ p.InStart) : p.isStarted = false := by
  obtain ⟨-, st, htrue, hset, hahead, hrun⟩ := (Polling.sound_start role).run h
  by_contra hs
  have hs : p.isStarted = true := by simpa using hs
  cases st with
  | settled =>
    obtain ⟨th, hth, hne⟩ := hset rfl hs
    exact hne (hthreads th hth)
  | ahead =>
    have hne : ¬ Returned p.caller := fun hret ↦ by
      generalize p.caller = q at hret htrue
      match q, hret, htrue with
      | .ret _, _, htrue => cases htrue
    exact hstart ⟨hahead rfl, hne⟩
  | running =>
    obtain ⟨th, hth, hne⟩ := (hrun rfl).2.2
    exact hne (hthreads th hth)

/-- A server is started, its thread runs to its end after `is_started` was set. -/
theorem isStarted_eq_false_of_error :
    Relation.ReflTransGen (Polling.Next .server (Polling.InOrder .server)) Polling.start
      ⟨true, false, .ret 0, true, [.ret ()]⟩ ∧
      (⟨true, false, .ret 0, true, [.ret ()]⟩ : Polling).isStarted = false := by
  have hrun : Relation.ReflTransGen (Polling.Next .server (Polling.InOrder .server))
      Polling.start ⟨true, false, .ret 0, true, [.ret ()]⟩ := by
    refine .head (.startCall trivial) ?_
    refine .head (.call (r := false) rfl ⟨rfl, rfl⟩) ?_
    refine .head (.call (r := ()) rfl rfl) ?_
    refine .head (.call (r := true) rfl ⟨1, rfl⟩) ?_
    refine .head (.call (r := ()) rfl rfl) ?_
    refine .head (.thread (i := 0) (r := true) rfl ⟨rfl, rfl⟩ nofun) ?_
    refine .head (.thread (i := 0) (r := UdtcpPoll.error) rfl rfl nofun) ?_
    refine .head (.thread (i := 0) (r := ()) rfl rfl ?_) .refl
    exact fun _ _ ↦ Polling.not_aboutToReport_of_returned trivial
  exact ⟨hrun, isStarted_eq_false_of_no_thread .server hrun
    (fun th hth ↦ by obtain rfl := List.mem_singleton.mp hth; trivial) fun h ↦ h.2 trivial⟩

/-- The first poll of a server fails before `pthread_create` returns: `is_started` is set with
the thread gone. -/
theorem isStarted_not_false_of_no_thread :
    ¬ ∀ (role : PollRole) (p : Polling),
      Relation.ReflTransGen (Polling.Next role Polling.AnyOrder) Polling.start p →
      (∀ th ∈ p.threads, Returned th) → ¬ p.InStart → p.isStarted = false := by
  intro h
  have hrun : Relation.ReflTransGen (Polling.Next .server Polling.AnyOrder)
      Polling.start ⟨true, true, .ret 0, true, [.ret ()]⟩ := by
    refine .head (.startCall trivial) ?_
    refine .head (.call (r := false) rfl ⟨rfl, rfl⟩) ?_
    refine .head (.call (r := ()) rfl rfl) ?_
    refine .head (.call (r := true) rfl ⟨1, rfl⟩) ?_
    refine .head (.thread (i := 0) (r := true) rfl ⟨rfl, rfl⟩ trivial) ?_
    refine .head (.thread (i := 0) (r := UdtcpPoll.error) rfl rfl trivial) ?_
    refine .head (.thread (i := 0) (r := ()) rfl rfl trivial) ?_
    exact .head (.call (r := ()) rfl rfl) .refl
  have hfalse := h .server _ hrun
    (fun th hth ↦ by obtain rfl := List.mem_singleton.mp hth; trivial) fun h ↦ h.2 trivial
  cases hfalse

end Udtcp
