import Udtcp.Server.Poll

/-!
# The loops of a server pass

`udtcp_server_poll`, `server_poll.c:439–539`, taken apart down to the functions it calls in its
loops.
-/

namespace Udtcp

open Interaction Routine

/-- **Rule for the drain loops.** What the first call of the body establishes and every further
one preserves holds when the loop ends, which is with a look at `poll_loop`. -/
theorem exec_drain_invariant {τ : Type} {t t' : Thread τ} {tr : Trace posix} {fuel : Nat}
    {body : Proc τ Int} {again : Int → Bool} {n : Int} (I : Int → Thread τ → Trace posix → Prop)
    (first : ∀ tr n t₁, Exec body t tr n t₁ → I n t₁ tr)
    (round : ∀ n t₁ tr tr' n' t₂, I n t₁ tr → again n = true → Exec body t₁ tr' n' t₂ →
      I n' t₂ (tr ++ ⟨.pollLoop, true⟩ :: tr'))
    (h : Exec (drain fuel body again) t tr n t') :
    ∃ done on, tr = done ++ [⟨.pollLoop, on⟩] ∧ I n t' done := by
  unfold drain at h
  obtain ⟨tr₁, b, t₁, tr₂, rfl, hb, hloop⟩ := exec_bind.mp h
  have hend : ∃ done on, tr₁ ++ tr₂ = done ++ [⟨.pollLoop, on⟩] ∧ I n t' done := by
    refine Exec.loop_invariant (fun b t tr ↦ I b t (tr₁ ++ tr))
      (fun n t tr ↦ ∃ done on, tr₁ ++ tr = done ++ [⟨.pollLoop, on⟩] ∧ I n t done)
      ?_ ?_ (by rw [List.append_nil]; exact first _ _ _ hb) hloop
    · intro b t tr tr' b' t' hI hround
      obtain ⟨on, rest, rfl, hrest⟩ := exec_request_bind.mp hround
      rw [exec_ite] at hrest
      split at hrest
      · next hagain =>
        obtain ⟨hon, hb⟩ := Bool.and_eq_true_iff.mp hagain
        obtain ⟨tr₃, b'', t₃, tr₄, rfl, hbody, hret⟩ := exec_bind.mp hrest
        obtain ⟨rfl, hb', rfl⟩ := exec_pure.mp hret
        cases hb'
        rw [List.append_nil, ← List.append_assoc, show on = true from hon]
        exact round _ _ _ _ _ _ hI hb hbody
      · obtain ⟨-, hne, -⟩ := exec_pure.mp hrest
        cases hne
    · intro b t tr tr' a t' hI hround
      obtain ⟨on, rest, rfl, hrest⟩ := exec_request_bind.mp hround
      rw [exec_ite] at hrest
      split at hrest
      · obtain ⟨tr₃, b'', t₃, tr₄, -, -, hret⟩ := exec_bind.mp hrest
        obtain ⟨-, hne, -⟩ := exec_pure.mp hret
        cases hne
      · obtain ⟨rfl, ha, rfl⟩ := exec_pure.mp hrest
        cases ha
        exact ⟨tr₁ ++ tr, on, (List.append_assoc _ _ _).symm, hI⟩
  exact hend

/-- A drain loop under way: its body has run once or more. -/
inductive Draining {τ : Type} (body : Proc τ Int) (again : Int → Bool) (t : Thread τ) :
    Trace posix → Int → Thread τ → Prop
  | first {tr : Trace posix} {n : Int} {t₁ : Thread τ} (h : Exec body t tr n t₁) :
      Draining body again t tr n t₁
  | round {tr tr' : Trace posix} {n n' : Int} {t₁ t₂ : Thread τ}
      (h : Draining body again t tr n t₁) (hagain : again n = true)
      (hround : Exec body t₁ tr' n' t₂) :
      Draining body again t (tr ++ ⟨.pollLoop, true⟩ :: tr') n' t₂

/-- A drain loop that ends, which is with a look at `poll_loop`. -/
theorem exec_drain {τ : Type} {t t' : Thread τ} {tr : Trace posix} {fuel : Nat}
    {body : Proc τ Int} {again : Int → Bool} {n : Int}
    (h : Exec (drain fuel body again) t tr n t') :
    ∃ done on, tr = done ++ [⟨.pollLoop, on⟩] ∧ Draining body again t done n t' :=
  exec_drain_invariant (fun n t₁ tr ↦ Draining body again t tr n t₁)
    (fun _ _ _ hfirst ↦ .first hfirst) (fun _ _ _ _ _ _ hI hagain hround ↦ hI.round hagain hround) h

/-- The same rule in an environment to which a look at `poll_loop` means nothing. -/
theorem must_drain {τ K : Type} {ker : Kernel posix K} {t : Thread τ} {k : K} {fuel : Nat}
    {body : Proc τ Int} {again : Int → Bool} {I : Int → Thread τ → K → Prop}
    (flag : ∀ n t k r k', I n t k → ker k .pollLoop r k' → I n t k')
    (first : Must ker body t k I)
    (round : ∀ n t k, I n t k → again n = true → Must ker body t k I) :
    Must ker (drain fuel body again) t k I := by
  unfold drain
  refine must_bind (first.mono fun n t₁ k₁ hI ↦ must_loop I hI fun n t₂ k₂ hI₂ ↦ ?_)
  refine must_request_bind fun on k₃ hk ↦ must_ite (fun hon ↦ ?_) fun _ ↦ ?_
  · obtain ⟨-, hagain⟩ := Bool.and_eq_true_iff.mp hon
    refine must_bind ((round n t₂ k₃ (flag _ _ _ _ _ hI₂ hk) hagain).mono ?_)
    exact fun _ _ _ hI' ↦ must_pure hI'
  · exact must_pure (flag _ _ _ _ _ hI₂ hk)

section

variable {m : Nat} {t t' : Thread (UdtcpServer m)} {tr : Trace posix} {fuel slot : Nat}

/-- A run of the end of a connection. -/
theorem exec_dropClient {u : Unit} (h : Exec (dropClient slot) t tr u t') :
    ∃ r r' rest, tr = ⟨.sys (.shutdown (t.self.infos slot).tcpSocket), r⟩ ::
        ⟨.sys (.close (t.self.infos slot).tcpSocket), r'⟩ :: rest ∧
      rest = (if t.self.disconnectCallback then
        [⟨.callback (.disconnect slot (t.self.infos slot)), ()⟩] else []) ∧
      t'.self = t.self.modifyPollFd slot fun p ↦ { p with fd := -1 } := by
  unfold dropClient at h
  obtain ⟨tr₁, _, t₁, tr₂, rfl, hdis, hupd⟩ := exec_bind.mp h
  obtain ⟨rfl, rfl⟩ := exec_update.mp hupd
  unfold disconnect at hdis
  rw [exec_self_bind] at hdis
  obtain ⟨r, rest, rfl, hclose⟩ := exec_syscall_bind.mp hdis
  rw [exec_self_bind, Thread.note_self] at hclose
  obtain ⟨r', rest', rfl, hcall⟩ := exec_syscall_bind.mp hclose
  rw [exec_self_bind, Thread.note_self, Thread.note_self] at hcall
  rw [List.append_nil]
  refine ⟨r, r', rest', rfl, ?_⟩
  split at hcall
  · next hcb =>
    obtain ⟨v, rfl, rfl⟩ := exec_issue.mp hcall
    rw [if_pos hcb]
    exact ⟨rfl, by simp only [Thread.note_self]⟩
  · next hcb =>
    obtain ⟨rfl, -, rfl⟩ := exec_pure.mp hcall
    rw [if_neg hcb]
    exact ⟨rfl, by simp only [Thread.note_self]⟩

/-- Serving a client drains its socket; a closed connection and every error but `EWOULDBLOCK` lead
to its disconnection. -/
theorem exec_serveClient {marked : Bool} (h : Exec (serveClient fuel slot) t tr marked t') :
    ∃ tr₁ ret t₁ tr₂, tr = tr₁ ++ tr₂ ∧ Exec (drain fuel (receiveTcp slot) (0 < ·)) t tr₁ ret t₁ ∧
      ((marked = false ∧ tr₂ = [] ∧ t' = t₁ ∧ (0 < ret ∨ ret < 0 ∧ t₁.errno = .ewouldblock)) ∨
      (marked = true ∧ Exec (dropClient slot) t₁ tr₂ () t' ∧
        (ret = 0 ∨ ret < 0 ∧ t₁.errno ≠ .ewouldblock))) := by
  unfold serveClient at h
  obtain ⟨tr₁, ret, t₁, tr₂, rfl, hdrain, hend⟩ := exec_bind.mp h
  refine ⟨tr₁, ret, t₁, tr₂, rfl, hdrain, ?_⟩
  have hdrop {tr₂ : Trace posix}
      (hend : Exec (dropClient slot >>= fun _ ↦ pure true) t₁ tr₂ marked t') :
      marked = true ∧ Exec (dropClient slot) t₁ tr₂ () t' := by
    obtain ⟨tr₃, _, t₃, tr₄, rfl, hd, hret⟩ := exec_bind.mp hend
    obtain ⟨rfl, rfl, rfl⟩ := exec_pure.mp hret
    rw [List.append_nil]
    exact ⟨rfl, hd⟩
  rw [exec_ite] at hend
  split at hend
  · next hneg =>
    rw [exec_errno_bind, exec_ite] at hend
    split at hend
    · next herr => exact .inr ⟨(hdrop hend).1, (hdrop hend).2, .inr ⟨hneg, herr⟩⟩
    · next herr =>
      obtain ⟨rfl, rfl, rfl⟩ := exec_pure.mp hend
      exact .inl ⟨rfl, rfl, rfl, .inr ⟨hneg, by simpa using herr⟩⟩
  · next hneg =>
    rw [exec_ite] at hend
    split at hend
    · next hzero => exact .inr ⟨(hdrop hend).1, (hdrop hend).2, .inl hzero⟩
    · next hzero =>
      obtain ⟨rfl, rfl, rfl⟩ := exec_pure.mp hend
      exact .inl ⟨rfl, rfl, rfl, .inl (by omega)⟩

/-- What serving a slot comes to depends on its descriptor. -/
theorem exec_serveSlot {marked : Bool} (h : Exec (serveSlot fuel slot) t tr marked t') :
    (tr = [] ∧ marked = false ∧ t' = t) ∨
    ((t.self.pollFds slot).fd = t.self.serverInfos.tcpSocket ∧ marked = false ∧
      ∃ n, Exec (drain fuel acceptClient (· = 0)) t tr n t') ∨
    ((t.self.pollFds slot).fd = t.self.serverInfos.udpServerSocket ∧ marked = false ∧
      ∃ n, Exec (drain fuel receiveUdp (0 < ·)) t tr n t') ∨
    ((t.self.pollFds slot).fd ≠ t.self.serverInfos.tcpSocket ∧
      (t.self.pollFds slot).fd ≠ t.self.serverInfos.udpServerSocket ∧
      Exec (serveClient fuel slot) t tr marked t') := by
  unfold serveSlot at h
  rw [exec_self_bind] at h
  dsimp only at h
  rw [exec_ite] at h
  split at h
  · obtain ⟨rfl, rfl, rfl⟩ := exec_pure.mp h
    exact .inl ⟨rfl, rfl, rfl⟩
  rw [exec_ite] at h
  split at h
  · obtain ⟨rfl, rfl, rfl⟩ := exec_pure.mp h
    exact .inl ⟨rfl, rfl, rfl⟩
  rw [exec_ite] at h
  split at h
  · next hlisten =>
    obtain ⟨tr₁, n, t₁, tr₂, rfl, hdrain, hret⟩ := exec_bind.mp h
    obtain ⟨rfl, rfl, rfl⟩ := exec_pure.mp hret
    rw [List.append_nil]
    exact .inr (.inl ⟨hlisten, rfl, n, hdrain⟩)
  next hlisten =>
  rw [exec_ite] at h
  split at h
  · next hudp =>
    obtain ⟨tr₁, n, t₁, tr₂, rfl, hdrain, hret⟩ := exec_bind.mp h
    obtain ⟨rfl, rfl, rfl⟩ := exec_pure.mp hret
    rw [List.append_nil]
    exact .inr (.inr (.inl ⟨hudp, rfl, n, hdrain⟩))
  · next hudp => exact .inr (.inr (.inr ⟨hlisten, hudp, h⟩))

/-- A run of one step of the scan. -/
theorem exec_scanSlot {i : Nat × Bool} {o : (Nat × Bool) ⊕ Bool}
    (h : Exec (scanSlot fuel i) t tr o t') :
    ∃ on rest, tr = ⟨.pollLoop, on⟩ :: rest ∧
      ((rest = [] ∧ o = .inr i.2 ∧ t' = t) ∨
      (i.1 < t.self.pollNfds ∧ ∃ marked, o = .inl (i.1 + 1, i.2 || marked) ∧
        Exec (serveSlot fuel i.1) t rest marked t')) := by
  unfold scanSlot at h
  obtain ⟨on, rest, rfl, hrest⟩ := exec_request_bind.mp h
  refine ⟨on, rest, rfl, ?_⟩
  rw [exec_self_bind, exec_ite] at hrest
  split at hrest
  · next hlt =>
    obtain ⟨tr₁, marked, t₁, tr₂, rfl, hserve, hret⟩ := exec_bind.mp hrest
    obtain ⟨rfl, rfl, rfl⟩ := exec_pure.mp hret
    rw [List.append_nil]
    exact .inr ⟨by simpa using (Bool.and_eq_true_iff.mp hlt).2, marked, rfl, hserve⟩
  · obtain ⟨rfl, rfl, rfl⟩ := exec_pure.mp hrest
    exact .inl ⟨rfl, rfl, rfl⟩

/-- The middle of a pass: `poll` has reported input, and some slots have been served. -/
inductive Scanning (fuel : Nat) (timeout : Int) (t : Thread (UdtcpServer m)) :
    Trace posix → Nat × Bool → Thread (UdtcpServer m) → Prop
  | intro {reply : (SysCall.poll t.self.polled timeout).Result} {rest : Trace posix}
      {i : Nat × Bool} {t₁ : Thread (UdtcpServer m)} (ready : pollCount (.ok reply) ≠ 0)
      (rounds : Rounds (scanSlot fuel) (0, false)
        ⟨t.errno, t.self.setRevents (reventsAt reply)⟩ rest i t₁) :
      Scanning fuel timeout t (⟨.sys (.poll t.self.polled timeout), .ok reply⟩ :: rest) i t₁

/-- **A pass** waits, and then ends, or scans the slots and compacts the table if one was marked. -/
theorem exec_udtcpServerPoll {timeout : Int} {result : UdtcpPoll}
    (h : Exec (udtcpServerPoll fuel timeout) t tr result t') :
    (∃ reply, tr = [⟨.sys (.poll t.self.polled timeout), reply⟩] ∧
      (t'.self = t.self ∨ ∃ revents, t'.self = t.self.setRevents revents)) ∨
    ∃ tr₁ i t₁ on, tr = tr₁ ++ [⟨.pollLoop, on⟩] ∧ Scanning fuel timeout t tr₁ i t₁ ∧
      t'.self = if i.2 then t₁.self.compact else t₁.self := by
  unfold udtcpServerPoll at h
  rw [exec_self_bind] at h
  obtain ⟨reply, rest, rfl, hrest⟩ := exec_syscall_bind.mp h
  cases reply with
  | error e =>
    have hret := exec_errno_bind.mp hrest
    rw [exec_ite] at hret
    split at hret
    · obtain ⟨rfl, -, rfl⟩ := exec_pure.mp hret
      exact .inl ⟨_, rfl, .inl rfl⟩
    · obtain ⟨rfl, -, rfl⟩ := exec_pure.mp hret
      exact .inl ⟨_, rfl, .inl rfl⟩
  | ok revents =>
    have hscan := exec_update_bind.mp hrest
    rw [exec_ite] at hscan
    split at hscan
    · obtain ⟨rfl, -, rfl⟩ := exec_pure.mp hscan
      exact .inl ⟨_, rfl, .inr ⟨_, rfl⟩⟩
    · next hready =>
      obtain ⟨tr₁, organise, t₂, tr₂, rfl, hloop, hend⟩ := exec_bind.mp hscan
      have hcompact : tr₂ = [] ∧ t'.self = if organise then t₂.self.compact else t₂.self := by
        cases organise with
        | false =>
          obtain ⟨rfl, -, rfl⟩ := exec_pure.mp hend
          exact ⟨rfl, rfl⟩
        | true =>
          have hret := exec_update_bind.mp hend
          obtain ⟨rfl, -, rfl⟩ := exec_pure.mp hret
          exact ⟨rfl, rfl⟩
      obtain ⟨rfl, hself⟩ := hcompact
      obtain ⟨tr₃, i, t₁, tr₄, rfl, hrounds, hlast⟩ := exec_loop_rounds hloop
      obtain ⟨on, rest, rfl, ⟨rfl, ho, rfl⟩ | ⟨-, _, hne, -⟩⟩ := exec_scanSlot hlast
      · cases ho
        refine .inr ⟨_, i, t₂, on, ?_, .intro hready hrounds, hself⟩
        rw [List.append_nil]
        rfl
      · cases hne

end

end Udtcp
