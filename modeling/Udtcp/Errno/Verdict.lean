import Udtcp.Errno.Refusal
import Udtcp.Server.Rounds

/-!
# What an old `errno` does to a pass

Behind a negative result the poll loops of `server_poll.c:494–514` and `client_poll.c:311–357` look
at `errno` to tell an empty queue from an error. If the result comes from a refusal and no call of
the pass failed before it, they find the value the pass was entered with, and whether the
connection is dropped depends on it.
-/

namespace Udtcp

open Interaction Routine

/-- A pass up to the look at `poll_loop` behind the first refusal that nothing explains. -/
structure Judgement (role : Role) (tr : Trace posix) : Prop where
  unexplained : ¬ Explained role tr
  flag : ∃ q on, tr = q ++ [⟨.pollLoop, on⟩]
  first : ∀ q on, q ++ [⟨.pollLoop, on⟩] <+: tr → q ++ [⟨.pollLoop, on⟩] ≠ tr →
    Explained role (q ++ [⟨.pollLoop, on⟩])

/-- The connection is dropped next. -/
def Drops (tr : Trace posix) : Prop := ∃ fd r rest, tr = ⟨.sys (.shutdown fd), r⟩ :: rest

/-- No events drop nothing. -/
theorem not_drops_nil : ¬ Drops [] := by
  rintro ⟨fd, r, rest, h⟩
  cases h

/-- What follows the first refusal that nothing explains tells whether `e` is `EWOULDBLOCK`. -/
def Tells (role : Role) (e : Errno) (tr : Trace posix) : Prop :=
  ∃ p q, tr = p ++ q ∧ Judgement role p ∧ (Drops q ↔ e ≠ .ewouldblock)

section

variable {role : Role} {tr p p' : Trace posix} {e e' : Errno}

/-- There is only one such place. -/
theorem Judgement.unique (h : Judgement role p) (h' : Judgement role p') (hp : p <+: tr)
    (hp' : p' <+: tr) : p = p' := by
  by_contra hne
  rcases List.prefix_or_prefix_of_prefix hp hp' with hle | hle
  · obtain ⟨q, on, rfl⟩ := h.flag
    exact h.unexplained (h'.first q on hle hne)
  · obtain ⟨q, on, rfl⟩ := h'.flag
    exact h'.unexplained (h.first q on hle fun heq ↦ hne heq.symm)

/-- What tells the values of `errno` apart is not explained. -/
theorem Tells.not_explained (h : Tells role e tr) : ¬ Explained role tr := by
  obtain ⟨p, q, rfl, hp, -⟩ := h
  exact fun hex ↦ hp.unexplained (hex.take (List.prefix_append p q))

/-- One trace does not tell two things. -/
theorem Tells.congr (h : Tells role e tr) (h' : Tells role e' tr) :
    e ≠ .ewouldblock ↔ e' ≠ .ewouldblock := by
  obtain ⟨p, q, rfl, hp, hq⟩ := h
  obtain ⟨p', q', heq, hp', hq'⟩ := h'
  have hpp' : p = p' :=
    hp.unique hp' (List.prefix_append p q) (heq ▸ List.prefix_append p' q')
  subst hpp'
  obtain rfl := List.append_cancel_left heq
  exact hq.symm.trans hq'

/-- It keeps telling them apart if nothing is dropped behind it. -/
theorem Tells.append (h : Tells role e p) {tr : Trace posix} (hnext : ¬ Drops tr) :
    Tells role e (p ++ tr) := by
  obtain ⟨p, q, rfl, hp, hq⟩ := h
  refine ⟨p, q ++ tr, List.append_assoc p q tr, hp, Iff.trans ?_ hq⟩
  cases q with
  | nil => exact iff_of_false hnext not_drops_nil
  | cons ev q =>
    constructor
    · rintro ⟨fd, r, rest, heq⟩
      exact ⟨fd, r, q, by rw [(List.cons.inj heq).1]⟩
    · rintro ⟨fd, r, rest, heq⟩
      exact ⟨fd, r, rest ++ tr, by rw [heq, List.cons_append]⟩

end

section

variable {role : Role} {τ α β : Type}

/-- A run repeats from every `errno`, or tells which it started with. -/
def Weighed (role : Role) (m : Proc τ α) : Prop :=
  ∀ ⦃pre : Trace posix⦄ ⦃e : Errno⦄ ⦃s : τ⦄ ⦃tr : Trace posix⦄ ⦃a : α⦄ ⦃t' : Thread τ⦄,
    Explained role pre → Exec m ⟨errnoAfter e pre, s⟩ tr a t' →
      (Explained role (pre ++ tr) ∧ ∀ e',
        Exec m ⟨errnoAfter e' pre, s⟩ tr a ⟨errnoAfter e' (pre ++ tr), t'.self⟩) ∨
      Tells role e (pre ++ tr)

/-- A routine that neither refuses nor looks at `errno`. -/
structure Steady (role : Role) (m : Proc τ α) : Prop where
  blind : Blind m
  clean : ∀ t tr a t', Exec m t tr a t' → Clean role tr

/-- A steady routine in a run that is explained so far. -/
theorem Steady.exec {m : Proc τ α} (h : Steady role m) {pre tr : Trace posix} {e : Errno} {s : τ}
    {a : α} {t' : Thread τ} (hpre : Explained role pre)
    (hm : Exec m ⟨errnoAfter e pre, s⟩ tr a t') : Explained role (pre ++ tr) ∧ ∀ e',
      Exec m ⟨errnoAfter e' pre, s⟩ tr a ⟨errnoAfter e' (pre ++ tr), t'.self⟩ := by
  refine ⟨hpre.append (h.clean _ _ _ _ hm), fun e' ↦ ?_⟩
  rw [errnoAfter_append]
  exact (h.blind hm).2 _

/-- A steady routine is weighed. -/
theorem Steady.weighed {m : Proc τ α} (h : Steady role m) : Weighed role m :=
  fun _ _ _ _ _ _ hpre hm ↦ .inl (h.exec hpre hm)

/-- A result is steady. -/
theorem steady_pure (a : α) : Steady role (pure a : Proc τ α) where
  blind := blind_pure a
  clean t tr b t' h := by
    obtain ⟨rfl, -, -⟩ := exec_pure.mp h
    exact clean_nil

/-- Reading the object is steady. -/
theorem steady_self : Steady role (self : Proc τ τ) where
  blind := blind_self
  clean t tr b t' h := by
    obtain ⟨rfl, -, -⟩ := exec_self.mp h
    exact clean_nil

/-- Changing the object is steady. -/
theorem steady_update (f : τ → τ) : Steady role (update f) where
  blind := blind_update f
  clean t tr b t' h := by
    obtain ⟨rfl, -⟩ := exec_update.mp h
    exact clean_nil

/-- A call with a reply that neither fails nor refuses is steady. -/
theorem steady_request {c : Call} (hc : ∀ r, failureOf c r = none)
    (hclean : ∀ r, ¬ refuses role c r ∧ ¬ idles c r) : Steady role (request c : Proc τ _) where
  blind := blind_request hc
  clean t tr r t' h := by
    obtain ⟨rfl, -⟩ := exec_request.mp h
    exact clean_singleton (hclean r).1 (hclean r).2

/-- A call without a reply that neither fails nor refuses is steady. -/
theorem steady_issue {c : Call} (hc : ∀ r, failureOf c r = none)
    (hclean : ∀ r, ¬ refuses role c r ∧ ¬ idles c r) : Steady role (issue c : Proc τ Unit) where
  blind := blind_issue hc
  clean t tr u t' h := by
    obtain ⟨r, rfl, -⟩ := exec_issue.mp h
    exact clean_singleton (hclean r).1 (hclean r).2

/-- A system call that does not refuse is steady. -/
theorem steady_syscall {c : SysCall}
    (hclean : ∀ r, ¬ refuses role (.sys c) r ∧ ¬ idles (.sys c) r) :
    Steady role (syscall c : Proc τ _) where
  blind := blind_syscall c
  clean t tr r t' h := by
    obtain ⟨rfl, -⟩ := exec_syscall.mp h
    exact clean_singleton (hclean r).1 (hclean r).2

/-- Steady routines in a row. -/
theorem Steady.bind {m : Proc τ α} {f : α → Proc τ β} (hm : Steady role m)
    (hf : ∀ a, Steady role (f a)) : Steady role (m >>= f) where
  blind := hm.blind.bind fun a ↦ (hf a).blind
  clean t tr b t' h := by
    obtain ⟨tr₁, a, t₁, tr₂, rfl, h₁, h₂⟩ := exec_bind.mp h
    exact (hm.clean _ _ _ _ h₁).append ((hf a).clean _ _ _ _ h₂)

/-- A choice between steady routines. -/
theorem Steady.ite {c : Prop} [Decidable c] {m n : Proc τ α} (hm : Steady role m)
    (hn : Steady role n) : Steady role (if c then m else n) := by
  split
  · exact hm
  · exact hn

/-- A steady routine on a part of the object. -/
theorem Steady.onPart {σ : Type} {view : τ → σ} {put : σ → τ → τ} {m : Proc σ α}
    (hm : Steady role m) : Steady role (onPart view put m) where
  blind := hm.blind.onPart
  clean t tr a t' h := by
    obtain ⟨u, hu, -⟩ := exec_onPart.mp h
    exact hm.clean _ _ _ _ hu

/-- A loop with a steady body. -/
theorem Steady.loop {body : β → Proc τ (β ⊕ α)} (h : ∀ b, Steady role (body b)) (fuel : Nat)
    (b : β) : Steady role (Routine.loop body fuel b) := by
  induction fuel generalizing b with
  | zero => exact ⟨fun _ _ _ _ hl ↦ hl.elim, fun _ _ _ _ hl ↦ hl.elim⟩
  | succ fuel ih =>
    refine (h b).bind fun o ↦ ?_
    cases o with
    | inl b' => exact ih b'
    | inr a => exact steady_pure a

/-- Reading `poll_loop` is steady. -/
theorem steady_pollLoop : Steady role (request .pollLoop : Proc τ Bool) := by
  refine steady_request (fun _ ↦ rfl) fun r ↦ ⟨?_, id⟩
  cases role <;> exact id

/-- Draining a socket with a steady routine. -/
theorem Steady.drain {m : Proc τ Int} (hm : Steady role m) (fuel : Nat) (again : Int → Bool) :
    Steady role (drain fuel m again) := by
  refine hm.bind fun n ↦ .loop (fun n ↦ steady_pollLoop.bind fun on ↦ .ite ?_ ?_) fuel n
  · exact hm.bind fun _ ↦ steady_pure _
  · exact steady_pure _

/-- A choice between weighed routines. -/
theorem Weighed.ite {c : Prop} [Decidable c] {m n : Proc τ α} (hm : Weighed role m)
    (hn : Weighed role n) : Weighed role (if c then m else n) := by
  split
  · exact hm
  · exact hn

/-- A steady routine and then a weighed one. -/
theorem Steady.bind_weighed {m : Proc τ α} {f : α → Proc τ β} (hm : Steady role m)
    (hf : ∀ a, Weighed role (f a)) : Weighed role (m >>= f) := by
  intro pre e s tr b t' hpre h
  obtain ⟨tr₁, a, t₁, tr₂, rfl, h₁, h₂⟩ := exec_bind.mp h
  obtain ⟨hpre₁, hany₁⟩ := hm.exec hpre h₁
  rw [← ((hany₁ e).unique h₁).2] at h₂
  rw [← List.append_assoc]
  exact (hf a hpre₁ h₂).imp_left fun ⟨hpre₂, hany₂⟩ ↦
    ⟨hpre₂, fun e' ↦ exec_bind.mpr ⟨tr₁, a, _, tr₂, rfl, hany₁ e', hany₂ e'⟩⟩

/-- What goes on without dropping a connection first leaves told what was told. -/
theorem Weighed.bind {m : Proc τ α} {f : α → Proc τ β} (hm : Weighed role m)
    (hf : ∀ a, Weighed role (f a)) (hnext : ∀ a t tr b t', Exec (f a) t tr b t' → ¬ Drops tr) :
    Weighed role (m >>= f) := by
  intro pre e s tr b t' hpre h
  obtain ⟨tr₁, a, t₁, tr₂, rfl, h₁, h₂⟩ := exec_bind.mp h
  rw [← List.append_assoc]
  rcases hm hpre h₁ with ⟨hpre₁, hany₁⟩ | htells
  · rw [← ((hany₁ e).unique h₁).2] at h₂
    exact (hf a hpre₁ h₂).imp_left fun ⟨hpre₂, hany₂⟩ ↦
      ⟨hpre₂, fun e' ↦ exec_bind.mpr ⟨tr₁, a, _, tr₂, rfl, hany₁ e', hany₂ e'⟩⟩
  · exact .inr (htells.append (hnext a _ _ _ _ h₂))

/-- **Loop rule.** -/
theorem weighed_loop {body : β → Proc τ (β ⊕ α)} (hbody : ∀ b, Weighed role (body b))
    (hfirst : ∀ b t tr o t', Exec (body b) t tr o t' → ∃ on rest, tr = ⟨.pollLoop, on⟩ :: rest)
    (fuel : Nat) (b : β) : Weighed role (Routine.loop body fuel b) := by
  induction fuel generalizing b with
  | zero => exact fun _ _ _ _ _ _ _ h ↦ h.elim
  | succ fuel ih =>
    refine (hbody b).bind (fun o ↦ ?_) fun o t tr a t' h ↦ ?_
    · cases o with
      | inl b' => exact ih b'
      | inr a => exact (steady_pure a).weighed
    · cases o with
      | inl b' =>
        cases fuel with
        | zero => exact h.elim
        | succ fuel =>
          obtain ⟨tr₁, o, t₁, tr₂, rfl, h₁, -⟩ := exec_bind.mp h
          obtain ⟨on, rest, rfl⟩ := hfirst _ _ _ _ _ h₁
          rintro ⟨fd, r, rest', heq⟩
          cases heq
      | inr a =>
        obtain ⟨rfl, -, -⟩ := exec_pure.mp h
        exact not_drops_nil

end

/-! ### Draining a socket -/

section

variable {role : Role} {τ β : Type} {m : Proc τ Int} {t t' : Thread τ} {tr : Trace posix} {n : Int}

/-- A receiver whose result the poll loop looks at. -/
structure Judged (role : Role) (m : Proc τ Int) : Prop where
  blind : Blind m
  flagless : Emits (fun ev : Event posix ↦ ev.call ≠ Call.pollLoop) m
  outcome : ∀ t tr n t', Exec m t tr n t' → Outcome role n tr

/-- A receiver may run on a part of the object. -/
theorem judged_onPart {σ : Type} {view : τ → σ} {put : σ → τ → τ} {receive : τ → Proc σ Int}
    (h : ∀ s, Judged role (receive s)) :
    Judged role (self >>= fun s ↦ onPart view put (receive s)) where
  blind := blind_self.bind fun s ↦ (h s).blind.onPart
  flagless t tr n t' hrun := by
    have hpart := exec_self_bind.mp hrun
    obtain ⟨u, hu, -⟩ := exec_onPart.mp hpart
    exact (h t.self).flagless _ _ _ _ hu
  outcome t tr n t' hrun := by
    have hpart := exec_self_bind.mp hrun
    obtain ⟨u, hu, -⟩ := exec_onPart.mp hpart
    exact (h t.self).outcome _ _ _ _ hu

private theorem Judged.draining (hm : Judged role m)
    (h : Draining m (0 < ·) t tr n t') : ∃ done last, tr = done ++ last ∧ Clean role done ∧
      Outcome role n last ∧ ∀ ev ∈ last, ev.call ≠ .pollLoop := by
  induction h with
  | @first tr n t₁ h => exact ⟨[], tr, rfl, clean_nil, hm.outcome _ _ _ _ h, hm.flagless _ _ _ _ h⟩
  | @round tr tr' n n' t₁ t₂ h hagain hround ih =>
    obtain ⟨done, last, rfl, hdone, hlast, -⟩ := ih
    have hpos : 0 < n := of_decide_eq_true hagain
    have hclean : Clean role last := by
      cases hlast with
      | taken _ h => exact h
      | failed hn => omega
      | refused hn => omega
    have hflag : Clean role [⟨.pollLoop, true⟩] := by
      apply clean_singleton
      · cases role <;> exact id
      · exact id
    refine ⟨done ++ last ++ [⟨Call.pollLoop, true⟩], tr', by simp,
      (hdone.append hclean).append hflag, hm.outcome _ _ _ _ hround, hm.flagless _ _ _ _ hround⟩

private theorem judgement_of_refused {pre done last p : Trace posix} (on : Bool)
    (hpre : Explained role pre) (hdone : Clean role done)
    (hnone : ∀ ev ∈ pre ++ done ++ last, ¬ Failed ev)
    (hflag : ∀ ev ∈ last, ev.call ≠ .pollLoop) (hp : p <+: last)
    (hrefused : ∀ pre, Refused role (pre ++ p)) :
    Judgement role (pre ++ done ++ last ++ [⟨.pollLoop, on⟩]) where
  unexplained hex := by
    have hle : pre ++ done ++ p <+: pre ++ done ++ last := (List.prefix_append_right_inj _).mpr hp
    obtain ⟨ev, hev, hfail⟩ := hex _ (hle.trans (List.prefix_append _ _)) (hrefused _)
    exact hnone ev (hle.subset hev) hfail
  flag := ⟨_, on, rfl⟩
  first q on' hq hne := by
    rcases List.prefix_concat_iff.mp hq with heq | hle
    · exact (hne heq).elim
    rcases List.prefix_or_prefix_of_prefix hle (List.prefix_append (pre ++ done) last) with
      hle' | ⟨r, hr⟩
    · exact (hpre.append hdone).take hle'
    · rcases List.eq_nil_or_concat' r with rfl | ⟨r', ev, rfl⟩
      · rw [← hr, List.append_nil]
        exact hpre.append hdone
      · rw [← List.append_assoc] at hr
        obtain ⟨-, hev⟩ := List.append_inj' hr rfl
        cases hev
        rw [← hr] at hle
        rw [List.append_assoc] at hle
        have hmem := ((List.prefix_append_right_inj _).mp hle).subset (List.mem_append_right r'
          (List.mem_singleton_self _))
        exact (hflag _ hmem rfl).elim

/-- What the poll loops do with the last result of a drained socket. -/
def judge (keep : β) (drop : Proc τ β) (ret : Int) : Proc τ β := do
  if ret < 0 then
    if (← errno) ≠ .ewouldblock then
      drop
    else
      return keep
  else if ret = 0 then
    drop
  else
    return keep

private theorem steady_judge {drop : Proc τ β} (keep : β) (hdrop : Steady role drop)
    (hn : ¬ n < 0) : Steady role (judge keep drop n) := by
  unfold judge
  rw [if_neg hn]
  exact hdrop.ite (steady_pure keep)

private theorem exec_judge_neg {drop : Proc τ β} {keep b : β} (hn : n < 0)
    (h : Exec (judge keep drop n) t tr b t') :
    (t.errno ≠ .ewouldblock ∧ Exec drop t tr b t') ∨
      (t.errno = .ewouldblock ∧ tr = [] ∧ b = keep ∧ t' = t) := by
  unfold judge at h
  rw [if_pos hn, exec_errno_bind, exec_ite] at h
  split at h
  · next herrno => exact .inl ⟨herrno, h⟩
  · next herrno => exact .inr ⟨not_not.mp herrno, exec_pure.mp h⟩

/-- Draining a socket with a judged reception cannot be told apart by `errno`. -/
theorem Judged.blind_drain (hm : Judged role m) (fuel : Nat) : Blind (drain fuel m (0 < ·)) := by
  refine hm.blind.bind fun n ↦ .loop (fun n ↦ ?_) fuel n
  refine (blind_request fun _ ↦ rfl).bind fun on ↦ .ite (hm.blind.bind fun _ ↦ blind_pure _) ?_
  exact blind_pure _

/-- **Judging what a drained socket came to.** -/
theorem Judged.weighed (hm : Judged role m) (keep : β) (drop : Proc τ β)
    (hdrop : Steady role drop) (hdrops : ∀ t tr b t', Exec drop t tr b t' → Drops tr)
    (fuel : Nat) : Weighed role (drain fuel m (0 < ·) >>= judge keep drop) := by
  intro pre e s tr b t' hpre h
  obtain ⟨tr₁, n, t₁, tr₂, rfl, hdrain, hend⟩ := exec_bind.mp h
  obtain ⟨herrno, hany⟩ := hm.blind_drain fuel hdrain
  rw [← errnoAfter_append] at herrno
  rw [← List.append_assoc]
  -- behind a failure `errno` is the same whatever it was before
  have hfailed (hn : n < 0) (hex : Explained role (pre ++ tr₁))
      (hfail : ∃ ev ∈ pre ++ tr₁, Failed ev) : Explained role (pre ++ tr₁ ++ tr₂) ∧ ∀ e',
        Exec (drain fuel m (0 < ·) >>= judge keep drop) ⟨errnoAfter e' pre, s⟩ (tr₁ ++ tr₂) b
          ⟨errnoAfter e' (pre ++ tr₁ ++ tr₂), t'.self⟩ := by
    refine ⟨explained_of_failed hex hfail, fun e' ↦ exec_bind.mpr ⟨tr₁, n, t₁, tr₂, rfl, ?_, ?_⟩⟩
    · have hrun := hany (errnoAfter e' pre)
      rw [← errnoAfter_append, errnoAfter_eq_of_failed hfail e' e, ← herrno] at hrun
      exact hrun
    · have herrno' : t'.errno = errnoAfter t₁.errno tr₂ := by
        rcases exec_judge_neg hn hend with ⟨-, hdropped⟩ | ⟨-, rfl, -, rfl⟩
        · exact (hdrop.blind hdropped).1
        · rfl
      rw [errnoAfter_append, errnoAfter_eq_of_failed hfail e' e, ← herrno, ← herrno']
      exact hend
  obtain ⟨_, on, rfl, hdraining⟩ := exec_drain hdrain
  obtain ⟨done, last, rfl, hdone, hlast, hflag⟩ := hm.draining hdraining
  have hon : Clean role [⟨Call.pollLoop, on⟩] := by
    apply clean_singleton
    · cases role <;> exact id
    · exact id
  cases hlast with
  | taken hn hclean =>
    have hpre₁ := hpre.append ((hdone.append hclean).append hon)
    have hst := steady_judge keep hdrop (Int.not_lt.mpr hn)
    obtain ⟨hpre₂, hany₂⟩ := hst.exec (e := e) hpre₁ (by rw [← herrno]; exact hend)
    refine .inl ⟨hpre₂, fun e' ↦ exec_bind.mpr ⟨_, n, _, tr₂, rfl, hany _, ?_⟩⟩
    rw [← errnoAfter_append]
    exact hany₂ e'
  | failed hn hclean hfail =>
    obtain ⟨ev, hev, hfail⟩ := hfail
    exact .inl (hfailed hn (hpre.append ((hdone.append hclean).append hon))
      ⟨ev, by simp [hev], hfail⟩)
  | refused hn hnone p hp hrefused =>
    by_cases hbefore : ∃ ev ∈ pre ++ done, Failed ev
    · have hex : Explained role (pre ++ done ++ (last ++ [⟨Call.pollLoop, on⟩])) :=
        explained_of_failed (hpre.append hdone) hbefore
      obtain ⟨ev, hev, hfail⟩ := hbefore
      refine .inl (hfailed hn (by simpa using hex) ⟨ev, ?_, hfail⟩)
      simp only [List.mem_append] at hev ⊢
      exact hev.imp_right fun hev ↦ .inl (.inl hev)
    · have hall : ∀ ev ∈ pre ++ done ++ last, ¬ Failed ev :=
        List.forall_mem_append.mpr ⟨fun ev hev hfail ↦ hbefore ⟨ev, hev, hfail⟩, hnone⟩
      have hjudgement := judgement_of_refused on hpre hdone hall hflag hp hrefused
      have hflag : ¬ Failed ⟨Call.pollLoop, on⟩ := Bool.false_ne_true
      have hold : errnoAfter e (pre ++ (done ++ last ++ [⟨Call.pollLoop, on⟩])) = e := by
        rw [← List.append_assoc, ← List.append_assoc]
        exact errnoAfter_eq_self (List.forall_mem_append.mpr
          ⟨hall, List.forall_mem_singleton.mpr hflag⟩) e
      rw [hold] at herrno
      refine .inr ⟨_, tr₂, rfl, by simpa using hjudgement, ?_⟩
      rcases exec_judge_neg hn hend with ⟨hne, hdropped⟩ | ⟨heq, rfl, -⟩
      · exact iff_of_true (hdrops _ _ _ _ hdropped) (herrno ▸ hne)
      · exact iff_of_false not_drops_nil (not_not.mpr (herrno ▸ heq))

end

end Udtcp
