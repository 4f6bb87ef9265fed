import Udtcp.Table.Readiness

/-!
# Only ready sockets are read

Runs of a server, pass by pass, and from which sockets each pass reads (`server_poll.c:464–516`),
up to the pass in which a client gets the entry another one left (`server_poll.c:173–175`,
`server_poll.c:524–534`).
-/

namespace Udtcp

open Interaction Routine

/-- A pass of `udtcp_server_poll`: the server it begins with, its argument and its trace. -/
structure Pass (m : Nat) where
  server : UdtcpServer m
  timeout : Int
  trace : Trace posix

/-- Runs of a server with their passes, in order. -/
inductive PassRun (m : Nat) : List (Pass m) → Thread (UdtcpServer m) → Watch → Prop
  | create {hostname : List UInt8} {tcpPort udpServerPort udpClientPort : UInt16}
      {t t' : Thread (UdtcpServer m)} {tr : Trace posix} {w : Watch}
      (h : Exec (udtcpCreateServer hostname tcpPort udpServerPort udpClientPort) t tr 0 t')
      (ha : tableKernel.Accepts .start tr w) : PassRun m [] t' w
  | pass {passes : List (Pass m)} {fuel : Nat} {timeout : Int} {result : UdtcpPoll}
      {t t' : Thread (UdtcpServer m)} {tr : Trace posix} {w w' : Watch} (run : PassRun m passes t w)
      (h : Exec (udtcpServerPoll fuel timeout) t tr result t') (ha : tableKernel.Accepts w tr w') :
      PassRun m (passes ++ [⟨t.self, timeout, tr⟩]) t' w'
  | configure {passes : List (Pass m)} {t : Thread (UdtcpServer m)} {w : Watch}
      (run : PassRun m passes t w) (connect disconnect tcp udp : Bool) (e : Errno) :
      PassRun m passes ⟨e, t.self.withCallbacks connect disconnect tcp udp⟩ w

section

variable {m : Nat} {t : Thread (UdtcpServer m)} {w : Watch}

/-- A run of passes is a run of a server. -/
theorem PassRun.serverRun {passes : List (Pass m)} (h : PassRun m passes t w) :
    ∃ done, ServerRun m Watch.AnyPass done t w := by
  induction h with
  | create h ha => exact ⟨_, .create h ha⟩
  | pass _ h ha ih =>
    obtain ⟨done, run⟩ := ih
    exact ⟨_, run.pass h ha trivial⟩
  | configure _ connect disconnect tcp udp e ih =>
    obtain ⟨done, run⟩ := ih
    exact ⟨done, run.configure connect disconnect tcp udp e⟩

/-- **Only ready sockets are read.** In every run, every pass that enters no client in an entry with
`POLLIN` left in it reads from those sockets only that its `poll` reported. -/
theorem server_reads_ready {passes : List (Pass m)} (h : PassRun m passes t w) :
    ∀ p ∈ passes, EntriesUnready p.server p.trace → ReadsReady p.server p.timeout p.trace := by
  induction h with
  | create => exact nofun
  | pass run h ha ih =>
    obtain ⟨done, run⟩ := run.serverRun
    refine List.forall_mem_append.mpr ⟨ih, fun p hp hunready ↦ ?_⟩
    obtain rfl := List.mem_singleton.mp hp
    exact readsReady_pass run h ha hunready
  | configure _ _ _ _ _ _ ih => exact ih

end

/-! ### Two visits -/

/-- The slot whose turn it is when the server waits: the first client's once it is there, else that
of the listening socket. -/
def Watch.turn (w : Watch) : Nat := if w.completed = 1 ∧ w.live.length = 1 then 2 else 0

private theorem five_nonneg : (0 : Fd) ≤ 5 := by decide

/-- The sockets of the server. -/
def Watch.nextSocket : Watch → Descriptor
  | ⟨[], _, _, _⟩ => ⟨3, by decide⟩
  | ⟨[_], _, _, _⟩ => ⟨4, by decide⟩
  | _ => ⟨5, five_nonneg⟩

/-- Answers to a server that two clients visit, one after the other: the first closes its connection
at once, the second sends nothing. -/
def visitsResult (w : Watch) : (c : SysCall) → Except Errno c.Result
  | .socket _ => .ok w.nextSocket
  | .setsockopt _ _ => .ok ()
  | .bind _ _ => .ok ()
  | .getsockname _ => .ok SockaddrIn.zero
  | .listen _ _ => .ok ()
  | .connect _ _ => .ok ()
  | .accept _ =>
    if w.live.length = 0 then .ok (⟨6, by decide⟩, SockaddrIn.zero) else .error .ewouldblock
  | .getfl _ => .ok (0 : Nat)
  | .setfl _ _ => .ok ()
  | .poll fds _ =>
    .ok (Vector.ofFn fun i ↦ if fds.length = 1 then POLLIN else onlyReady w.turn i)
  | .send _ data => .ok ⟨data.length, length_le_self data⟩
  | .sendto _ data _ => .ok ⟨data.length, length_le_self data⟩
  | .recv _ .record len => .ok ⟨blankRecord.val.take len, List.length_take_le _ _⟩
  | .recv _ _ len => if w.completed = 1 then .ok ⟨[], Nat.zero_le len⟩ else .error .ewouldblock
  | .recvfrom _ _ _ _ => .error .ewouldblock
  | .shutdown _ => .ok ()
  | .close _ => .ok ()
  | .newBuffer _ => .error (.other 0)
  | .newServer => .ok (0 : UInt64)
  | .newClient => .ok (0 : UInt64)

/-- Answers to everything else that grant it. -/
def visitsReply (w : Watch) : (c : Call) → Option c.Reply
  | .sys c => some (visitsResult w c)
  | .gethostbyname _ => some (some ⟨[], 0⟩)
  | .gethostbyaddr _ => some none
  | .mutexInit _ => some true
  | .mutexLock _ => some true
  | .pollLoop => some true
  | .loadSend _ => some .zero
  | .storeSend _ _ => some ()
  | .callback _ => some ()
  | .fault => none
  | .freeBuffer _ => some ()
  | .freeServer => some ()
  | .freeClient => some ()
  | .mutexDestroy _ => some ()
  | .mutexUnlock _ => some ()

/-- What is asked of the surroundings can be checked. -/
instance (w : Watch) : (x : Sighting) → Decidable (w.Allows x)
  | .accepted fd _ => inferInstanceAs (Decidable (fd ∉ w.own ∧ ∀ c ∈ w.live, c.fd ≠ fd))
  | .named name => inferInstanceAs (Decidable (NameFits name))
  | .opened _ => .isTrue trivial
  | .record _ _ => .isTrue trivial
  | .shut _ => .isTrue trivial
  | .closed _ => .isTrue trivial
  | .connected _ _ => .isTrue trivial

/-- The surroundings with the two visits. -/
def visits : Handler posix Watch := fun w c ↦
  (visitsReply w c).bind fun r ↦
    match sightingOf c r with
    | none => some (r, w)
    | some x => if w.Allows x then some (r, w.see x) else none

/-- They are surroundings of a server. -/
theorem tableKernel_of_visits {w w' : Watch} {c : Call} {r : c.Reply}
    (h : visits.kernel w c r w') : tableKernel w c r w' := by
  obtain ⟨r', -, h⟩ := Option.bind_eq_some_iff.mp h
  cases hx : sightingOf c r' with
  | none =>
    rw [hx] at h
    obtain ⟨rfl, rfl⟩ := Prod.mk.inj (Option.some.inj h)
    rw [tableKernel, hx]
  | some x =>
    rw [hx] at h
    obtain ⟨hallows, h⟩ := Option.ite_none_right_eq_some.mp h
    obtain ⟨rfl, rfl⟩ := Prod.mk.inj (Option.some.inj h)
    rw [tableKernel, hx]
    exact ⟨hallows, rfl⟩

/-- Whether the entries of newcomers are clear can be checked. -/
instance {m : Nat} (s : UdtcpServer m) (tr : Trace posix) : Decidable (EntriesUnready s tr) :=
  inferInstanceAs (Decidable (∀ k < admissions tr, _))

/-- The two visits take three passes: the server accepts, drops the first client, and accepts again,
in the entry the first client left. -/
theorem exists_three_passes : ∃ (p₁ p₂ p₃ : Pass 1) (t₂ t₃ : Thread (UdtcpServer 1))
    (w₂ w₃ : Watch), PassRun 1 [p₁, p₂] t₂ w₂ ∧ PassRun 1 [p₁, p₂, p₃] t₃ w₃ ∧
      (EntriesUnready p₁.server p₁.trace ∧ EntriesUnready p₂.server p₂.trace) ∧
      headersRead p₂.trace = [6] ∧ headersRead p₃.trace = [6] ∧
      ∀ slot < p₃.server.pollNfds, (p₃.server.infos slot).tcpSocket ≠ 6 := by
  have hrun : ((visits.run (udtcpCreateServer (m := 1) [] 0 0 0 ⟨.other 0, .zero 0⟩) .start).bind
      fun o₀ ↦ (visits.run (udtcpServerPoll 4 0 o₀.2.1.2) o₀.2.2).bind
      fun o₁ ↦ (visits.run (udtcpServerPoll 4 0 o₁.2.1.2) o₁.2.2).bind
      fun o₂ ↦ (visits.run (udtcpServerPoll 4 0 o₂.2.1.2) o₂.2.2).map
      fun o₃ ↦ (o₀.2.1.1, decide ((EntriesUnready o₀.2.1.2.self o₁.1 ∧
        EntriesUnready o₁.2.1.2.self o₂.1) ∧ headersRead o₂.1 = [6] ∧ headersRead o₃.1 = [6] ∧
        ∀ slot < o₂.2.1.2.self.pollNfds, (o₂.2.1.2.self.infos slot).tcpSocket ≠ 6))) =
      some (0, true) := by
    decide +kernel
  obtain ⟨⟨tr₀, ⟨n, t₀⟩, w₀⟩, h₀, hrun⟩ := Option.bind_eq_some_iff.mp hrun
  obtain ⟨⟨tr₁, ⟨r₁, t₁⟩, w₁⟩, h₁, hrun⟩ := Option.bind_eq_some_iff.mp hrun
  obtain ⟨⟨tr₂, ⟨r₂, t₂⟩, w₂⟩, h₂, hrun⟩ := Option.bind_eq_some_iff.mp hrun
  obtain ⟨⟨tr₃, ⟨r₃, t₃⟩, w₃⟩, h₃, hrun⟩ := Option.map_eq_some_iff.mp hrun
  obtain ⟨hn, hfacts⟩ := Prod.mk.inj hrun
  obtain rfl : n = 0 := hn
  obtain ⟨hcreate, ha₀⟩ := (visits.run_eq_some_iff _ _ _ _ _).mp h₀
  obtain ⟨hpass₁, ha₁⟩ := (visits.run_eq_some_iff _ _ _ _ _).mp h₁
  obtain ⟨hpass₂, ha₂⟩ := (visits.run_eq_some_iff _ _ _ _ _).mp h₂
  obtain ⟨hpass₃, ha₃⟩ := (visits.run_eq_some_iff _ _ _ _ _).mp h₃
  have hwatch {w w' : Watch} {tr : Trace posix} (ha : visits.kernel.Accepts w tr w') :
      tableKernel.Accepts w tr w' := ha.mono fun _ _ _ _ ↦ tableKernel_of_visits
  have run₂ := ((PassRun.create hcreate (hwatch ha₀)).pass hpass₁ (hwatch ha₁)).pass hpass₂
    (hwatch ha₂)
  exact ⟨_, _, _, t₂, t₃, w₂, w₃, run₂, run₂.pass hpass₃ (hwatch ha₃), of_decide_eq_true hfacts⟩

/-- The passes of the first visit. -/
theorem server_reads_ready_once : ∃ p₁ p₂ : Pass 1, headersRead p₂.trace = [6] ∧
    ReadsReady p₁.server p₁.timeout p₁.trace ∧ ReadsReady p₂.server p₂.timeout p₂.trace := by
  obtain ⟨p₁, p₂, p₃, t₂, t₃, w₂, w₃, run, -, ⟨hunready₁, hunready₂⟩, hread, -⟩ :=
    exists_three_passes
  exact ⟨p₁, p₂, hread, server_reads_ready run p₁ (by simp) hunready₁,
    server_reads_ready run p₂ (by simp) hunready₂⟩

/-- The second client is read in the pass that accepts it. -/
theorem server_reads_unready : ∃ (passes : List (Pass 1)) (t : Thread (UdtcpServer 1)) (w : Watch),
    PassRun 1 passes t w ∧ ¬ ∀ p ∈ passes, ReadsReady p.server p.timeout p.trace := by
  obtain ⟨p₁, p₂, p₃, t₂, t₃, w₂, w₃, -, run, -, -, hread, hnone⟩ := exists_three_passes
  refine ⟨_, t₃, w₃, run, fun hall ↦ ?_⟩
  obtain ⟨slot, hslot, hfd, -⟩ := hall p₃ (by simp) 6
    (by rw [hread]; exact List.mem_singleton_self 6)
  exact hnone slot hslot hfd

end Udtcp
