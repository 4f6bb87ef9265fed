import Udtcp.Client.Calls
import Udtcp.Errno.Passes

/-!
# When a pass loses the connection

`udtcp_client_poll`, `client_poll.c:297–359`, disconnects behind a reception that found the
connection closed, and behind one that broke off unless `errno` is `EWOULDBLOCK`. Which of the two
it was, if any, is read off the answers to the calls of the pass.
-/

namespace Udtcp

open Interaction Routine

/-- An answer that is taken for the end of the connection: nothing came. How much of a datagram came
is kept in an `int`. -/
def closes : (c : Call) → c.Reply → Prop
  | .sys (.recv _ _ _), .ok bs => bs.val.length = 0
  | .sys (.recvfrom _ .word _ _), .ok (bs, _) => bs.val.length = 0
  | .sys (.recvfrom _ (.buffer _ _ _) _ _), .ok (bs, _) => cInt bs.val.length = 0
  | _, _ => False

/-- The calls of a reception that can fail. -/
def receives : Call → Prop
  | .sys (.recv _ _ _) => True
  | .sys (.recvfrom _ _ _ _) => True
  | .sys (.newBuffer _) => True
  | .sys (.poll _ _) => True
  | _ => False

/-- An answer that breaks a reception off: one of its calls fails, or it refuses what came, or it
waits for more in vain. -/
def breaksOff (ev : Event posix) : Prop :=
  receives ev.call ∧ Failed ev ∨ refuses .client ev.call ev.reply ∨ idles ev.call ev.reply

/-- The answers lose a client its connection, when `errno` is `e` before them: one closes it, or one
breaks a reception off and leaves `errno` with another value than `EWOULDBLOCK`. -/
def Loses : Errno → Trace posix → Prop
  | _, [] => False
  | e, ev :: tr => closes ev.call ev.reply ∨ breaksOff ev ∧ errnoAfter e [ev] ≠ .ewouldblock ∨
      Loses (errnoAfter e [ev]) tr

/-- The answers to the calls of a pass do so. The poll it starts with is no part of a reception. -/
def PassLoses (e : Errno) (tr : Trace posix) : Prop :=
  Loses (errnoAfter e (tr.take 1)) (tr.drop 1)

-- An answer that leaves the connection as it is.
private def Lossless (ev : Event posix) : Prop := ¬ closes ev.call ev.reply ∧ ¬ breaksOff ev

section

variable {e : Errno} {ev : Event posix} {tr tr' : Trace posix}

@[simp] private theorem not_loses_nil : ¬ Loses e [] := id

private theorem loses_append : Loses e (tr ++ tr') ↔ Loses e tr ∨ Loses (errnoAfter e tr) tr' := by
  induction tr generalizing e with
  | nil => exact (iff_of_eq (false_or _)).symm
  | cons ev tr ih =>
    rw [List.cons_append, Loses, Loses, ih, or_assoc, or_assoc]
    rfl

private theorem not_loses_of_lossless (h : ∀ ev ∈ tr, Lossless ev) : ¬ Loses e tr := by
  induction tr generalizing e with
  | nil => exact id
  | cons ev tr ih =>
    obtain ⟨⟨hcloses, hbreaks⟩, hrest⟩ := List.forall_mem_cons.mp h
    rintro (hc | ⟨hb, -⟩ | hl)
    · exact hcloses hc
    · exact hbreaks hb
    · exact ih hrest hl

private theorem not_breaksOff_ok {c : SysCall} {a : c.Result}
    (hrefuses : ¬ refuses .client (.sys c) (.ok a)) (hidles : ¬ idles (.sys c) (.ok a)) :
    ¬ breaksOff ⟨.sys c, .ok a⟩ := by
  rintro (⟨-, hfailed⟩ | hrefused | hidle)
  · cases hfailed
  · exact hrefuses hrefused
  · exact hidles hidle

private theorem lossless_of_not_receives {c : Call} {r : c.Reply} (hcloses : ¬ closes c r)
    (hreceives : ¬ receives c) (hrefuses : ¬ refuses .client c r) (hidles : ¬ idles c r) :
    Lossless ⟨c, r⟩ := by
  refine ⟨hcloses, ?_⟩
  rintro (⟨hreceived, -⟩ | hrefused | hidle)
  · exact hreceives hreceived
  · exact hrefuses hrefused
  · exact hidles hidle

private theorem not_breaksOff_of_closes (h : closes ev.call ev.reply) : ¬ breaksOff ev := by
  obtain ⟨c, r⟩ := ev
  match c, r, h with
  | .sys (.recv _ .word _), .ok bs, h => exact not_breaksOff_ok (fun hr ↦ hr.1 h) id
  | .sys (.recv _ .record _), .ok bs, h => exact not_breaksOff_ok id id
  | .sys (.recv _ (.buffer _ _ _) _), .ok bs, h => exact not_breaksOff_ok id id
  | .sys (.recvfrom _ .word _ _), .ok (bs, _), h => exact not_breaksOff_ok (fun hr ↦ hr.1 h) id
  | .sys (.recvfrom _ (.buffer _ _ _) _ _), .ok (bs, _), h =>
    exact not_breaksOff_ok (fun hr ↦ hr.1 h) id

/-! ### What a reception comes to -/

-- How the result of a reception goes with its answers: behind a message none of them was to the
-- connection's harm, otherwise the last one was and no other.
private inductive Settles (n : Int) (tr : Trace posix) : Prop
  | message (hn : 0 < n) (hcalm : ∀ ev ∈ tr, Lossless ev)
  | closed (hn : n = 0) (pre : Trace posix) (ev : Event posix) (heq : tr = pre ++ [ev])
      (hpre : ∀ ev ∈ pre, Lossless ev) (hcloses : closes ev.call ev.reply)
  | broken (hn : n < 0) (pre : Trace posix) (ev : Event posix) (heq : tr = pre ++ [ev])
      (hpre : ∀ ev ∈ pre, Lossless ev) (hbreaks : breaksOff ev)

variable {n : Int}

private theorem Settles.append_left (h : Settles n tr) (hpre : ∀ ev ∈ tr', Lossless ev) :
    Settles n (tr' ++ tr) := by
  cases h with
  | message hn hcalm => exact .message hn (List.forall_mem_append.mpr ⟨hpre, hcalm⟩)
  | closed hn pre ev heq hpre' hcloses =>
    exact .closed hn (tr' ++ pre) ev (by rw [heq, List.append_assoc])
      (List.forall_mem_append.mpr ⟨hpre, hpre'⟩) hcloses
  | broken hn pre ev heq hpre' hbreaks =>
    exact .broken hn (tr' ++ pre) ev (by rw [heq, List.append_assoc])
      (List.forall_mem_append.mpr ⟨hpre, hpre'⟩) hbreaks

private theorem Settles.cons (h : Settles n tr) (hev : Lossless ev) : Settles n (ev :: tr) :=
  h.append_left (List.forall_mem_singleton.mpr hev)

private theorem settles_failed {c : SysCall} {e : Errno} (hc : receives (.sys c)) :
    Settles (-1) [⟨.sys c, .error e⟩] :=
  .broken (by decide) [] _ rfl (List.forall_mem_nil _) (.inl ⟨hc, rfl⟩)

private theorem Settles.loses_iff (h : Settles n tr) :
    Loses e tr ↔ n = 0 ∨ n < 0 ∧ errnoAfter e tr ≠ .ewouldblock := by
  cases h with
  | message hn hcalm =>
    refine iff_of_false (not_loses_of_lossless hcalm) ?_
    omega
  | closed hn pre ev heq hpre hcloses =>
    rw [heq, loses_append]
    exact iff_of_true (.inr (.inl hcloses)) (.inl hn)
  | broken hn pre ev heq hpre hbreaks =>
    have hnot : ¬ closes ev.call ev.reply := fun hc ↦ not_breaksOff_of_closes hc hbreaks
    rw [heq, loses_append, errnoAfter_append]
    constructor
    · rintro (hl | hc | ⟨-, he⟩ | hl)
      · exact absurd hl (not_loses_of_lossless hpre)
      · exact absurd hc hnot
      · exact .inr ⟨hn, he⟩
      · exact hl.elim
    · rintro (hzero | ⟨-, he⟩)
      · omega
      · exact .inr (.inr (.inl ⟨hbreaks, he⟩))

end

section

variable {fd : Fd} {t t' : Thread ReceiveBuffer} {tr : Trace posix} {n : Int}

private theorem lossless_recvBuffer (fd : Fd) (b : ReceiveBuffer) (offset : Nat) {len : Nat}
    (bs : {bs : List UInt8 // bs.length ≤ len}) (h : bs.val.length ≠ 0) :
    Lossless ⟨.sys (.recv fd (b.target offset) len), .ok bs⟩ :=
  ⟨h, not_breaksOff_ok id id⟩

private theorem lossless_recvWord {bs : {bs : List UInt8 // bs.length ≤ 4}}
    (h : bs.val.length = 4) : Lossless ⟨.sys (.recv fd .word 4), .ok bs⟩ :=
  ⟨fun hzero : bs.val.length = 0 ↦ by omega, not_breaksOff_ok (fun hr ↦ hr.2 h) id⟩

private theorem lossless_peek {bs : {bs : List UInt8 // bs.length ≤ 4}} {addr : SockaddrIn}
    (h : bs.val.length = 4) :
    Lossless ⟨.sys (.recvfrom fd .word 4 true), .ok (bs, addr)⟩ :=
  ⟨fun hzero : bs.val.length = 0 ↦ by omega, not_breaksOff_ok (fun hr ↦ hr.2 h) id⟩

private theorem lossless_delivery {deliver : Option (List UInt8 → Callback)} {data : List UInt8}
    (h : delivery deliver data tr) : ∀ ev ∈ tr, Lossless ev := by
  cases deliver with
  | none =>
    obtain rfl : tr = [] := h
    exact List.forall_mem_nil _
  | some f =>
    obtain ⟨u, rfl⟩ := h
    exact List.forall_mem_singleton.mpr (lossless_of_not_receives id id id id)

private theorem settles_growBuffer {need : Nat} {ok : Bool}
    (h : Exec (growBuffer need) t tr ok t') :
    (ok = true → ∀ ev ∈ tr, Lossless ev) ∧ (ok = false → Settles (-1) tr) := by
  rcases exec_growBuffer.mp h with ⟨-, rfl, rfl, rfl⟩ | ⟨-, e, rfl, rfl, rfl⟩ |
    ⟨-, block, rfl, rfl, rfl⟩
  · exact ⟨fun _ ↦ List.forall_mem_nil _, nofun⟩
  · exact ⟨nofun, fun _ ↦ settles_failed trivial⟩
  · have hgranted : Lossless ⟨.sys (.newBuffer (need % 2 ^ 32)), .ok block⟩ :=
      ⟨id, not_breaksOff_ok id id⟩
    refine ⟨fun _ ↦ List.forall_mem_cons.mpr ⟨hgranted, fun ev hev ↦ ?_⟩, nofun⟩
    obtain ⟨ptr, r, rfl⟩ := ReceiveBuffer.mem_release hev
    exact lossless_of_not_receives id id id id

private theorem settles_reassemble {dataSize rounds have₀ : Nat} {r : Option Int}
    (h : Exec (reassemble fd dataSize rounds have₀) t tr r t') :
    (r = none ∧ ∀ ev ∈ tr, Lossless ev) ∨ ∃ n, r = some n ∧ Settles n tr := by
  induction rounds generalizing have₀ t tr with
  | zero =>
    obtain ⟨rfl, rfl, -⟩ := exec_pure.mp h
    exact .inl ⟨rfl, List.forall_mem_nil _⟩
  | succ rounds ih =>
    by_cases hall : have₀ = dataSize
    · subst hall
      obtain ⟨rfl, rfl, -⟩ := exec_reassemble_done.mp h
      exact .inl ⟨rfl, List.forall_mem_nil _⟩
    obtain ⟨reply, rest, rfl, hrest⟩ := (exec_reassemble hall).mp h
    rcases hrest with ⟨hidle, rfl, rfl, rfl⟩ | ⟨hpos, tr₁, k, t₁, tr₂, rfl, hrecv, hend⟩
    · refine .inr ⟨-1, rfl, ?_⟩
      cases reply with
      | error e => exact settles_failed trivial
      | ok revents =>
        refine .broken (by decide) [] _ rfl (List.forall_mem_nil _) (.inr (.inr ?_))
        exact Int.le_antisymm hidle (Int.natCast_nonneg _)
    · have hwait : Lossless ⟨.sys (.poll [⟨fd, POLLIN, 0⟩] (-1)), reply⟩ := by
        cases reply with
        | error e => cases hpos
        | ok revents =>
          refine ⟨id, not_breaksOff_ok id fun hzero : pollCount (.ok revents) = 0 ↦ ?_⟩
          omega
      rcases exec_recvBuffer.mp hrecv with ⟨e, rfl, rfl, rfl⟩ | ⟨bs, rfl, rfl, rfl⟩
      · rcases hend with ⟨-, rfl, rfl, -⟩ | ⟨hzero, -⟩ | ⟨hmore, -⟩
        · exact .inr ⟨-1, rfl, (settles_failed (c := .recv _ _ _) trivial).cons hwait⟩
        · cases hzero
        · cases hmore
      · rcases hend with ⟨hneg, -⟩ | ⟨hzero, rfl, rfl, -⟩ | ⟨hmore, hloop⟩
        · omega
        · refine .inr ⟨0, rfl, .closed rfl [_] _ rfl (List.forall_mem_singleton.mpr hwait) ?_⟩
          exact Int.natCast_eq_zero.mp hzero
        · have hpart := lossless_recvBuffer fd (t.note reply).self have₀ bs (by omega)
          have hhead : ∀ ev ∈ ([_, _] : Trace posix), Lossless ev :=
            List.forall_mem_cons.mpr ⟨hwait, List.forall_mem_singleton.mpr hpart⟩
          rcases ih hloop with ⟨rfl, hcalm⟩ | ⟨n, rfl, hconcl⟩
          · exact .inl ⟨rfl, List.forall_mem_append.mpr ⟨hhead, hcalm⟩⟩
          · exact .inr ⟨n, rfl, hconcl.append_left hhead⟩

private theorem settles_receivePayload {deliver : Option (List UInt8 → Callback)} {dataSize : Nat}
    (h : Exec (receivePayload fd deliver (fun _ ↦ 1) dataSize) t tr n t') : Settles n tr := by
  obtain ⟨tr₁, k, t₁, rest, rfl, hrecv, hrest⟩ := exec_receivePayload h
  rcases exec_recvBuffer.mp hrecv with ⟨e, rfl, rfl, rfl⟩ | ⟨bs, rfl, rfl, rfl⟩
  · rcases hrest with ⟨-, rfl, rfl, -⟩ | ⟨hpos, -⟩
    · exact settles_failed trivial
    · cases hpos
  · rcases hrest with ⟨hle, rfl, rfl, -⟩ | ⟨hpos, tr₂, r, t₂, tr₃, rfl, hloop, -, hend⟩
    · have hzero : bs.val.length = 0 := by omega
      refine .closed (if_neg (by omega)) [] _ rfl (List.forall_mem_nil _) hzero
    · have hpart := lossless_recvBuffer fd t.self 0 bs (by omega)
      refine Settles.cons ?_ hpart
      rcases settles_reassemble hloop with ⟨rfl, hcalm⟩ | ⟨n', rfl, hconcl⟩
      · obtain ⟨hnone, -⟩ | ⟨-, rfl, hdeliver⟩ := hend
        · cases hnone
        have hall : ∀ ev ∈ tr₂ ++ tr₃, Lossless ev :=
          List.forall_mem_append.mpr ⟨hcalm, lossless_delivery hdeliver⟩
        exact .message Int.one_pos hall
      · obtain ⟨hsome, rfl⟩ | ⟨hnone, -⟩ := hend
        · cases hsome
          rw [List.append_nil]
          exact hconcl
        · cases hnone

private theorem settles_receiveTcpWith {deliver : Option (List UInt8 → Callback)}
    (h : Exec (receiveTcpWith fd deliver fun _ ↦ 1) t tr n t') : Settles n tr := by
  obtain ⟨size, rest, rfl, ⟨e, rfl, rfl, rfl, rfl⟩ | ⟨bs, rfl, h₄, rfl, rfl, rfl⟩ |
    ⟨bs, rfl, h₄, hgrow, rfl⟩ | ⟨bs, tr₁, t₁, tr₂, rfl, h₄, rfl, hgrow, hend⟩⟩ :=
      exec_receiveTcpWith h
  · exact settles_failed trivial
  · by_cases h₀ : bs.val.length = 0
    · exact .closed (if_pos h₀) [] _ rfl (List.forall_mem_nil _) h₀
    · rw [if_neg h₀]
      exact .broken (by decide) [] _ rfl (List.forall_mem_nil _) (.inr (.inl ⟨h₀, h₄⟩))
  · exact ((settles_growBuffer hgrow).2 rfl).cons (lossless_recvWord h₄)
  · exact ((settles_receivePayload hend).append_left ((settles_growBuffer hgrow).1 rfl)).cons
      (lossless_recvWord h₄)

private theorem settles_takeDatagram {deliver : Option (List UInt8 → Callback)} {dataSize : Nat}
    (hsize : dataSize < 2 ^ 32)
    (h : Exec (takeDatagram fd (fun _ ↦ some deliver) (fun _ ↦ 1) dataSize) t tr n t') :
    Settles n tr := by
  obtain ⟨r, rest, rfl, ⟨e, rfl, rfl, rfl, rfl⟩ | ⟨bs, addr, rfl, rfl, hend⟩⟩ :=
    exec_takeDatagram_cases h
  · exact settles_failed trivial
  rcases hend with ⟨rfl, hn, hroute⟩ | ⟨hpos, hfit, rfl, _, _, hdeliver⟩
  · by_cases hzero : cInt bs.val.length = 0
    · exact .closed (hn.trans (if_pos hzero)) [] _ rfl (List.forall_mem_nil _) hzero
    · rw [hn, if_neg hzero]
      refine .broken (by decide) [] _ rfl (List.forall_mem_nil _)
        (.inr (.inl ⟨hzero, fun heq ↦ ?_⟩))
      have hpos : 0 < cInt bs.val.length := by omega
      cases hroute hpos ((cInt_sub_eq_iff hsize hpos).mpr heq)
  · refine .message Int.one_pos (List.forall_mem_cons.mpr ⟨?_, lossless_delivery hdeliver⟩)
    refine ⟨fun hzero : cInt bs.val.length = 0 ↦ by omega, not_breaksOff_ok (fun hr ↦ ?_) id⟩
    exact hr.2 ((cInt_sub_eq_iff hsize hpos).mp hfit)

private theorem settles_receiveUdpWith {deliver : Option (List UInt8 → Callback)}
    (h : Exec (receiveUdpWith fd (fun _ ↦ some deliver) fun _ ↦ 1) t tr n t') :
    Settles n tr := by
  obtain ⟨size, rest, rfl, ⟨e, rfl, rfl, rfl, rfl⟩ | ⟨bs, addr, rfl, h₄, rfl, rfl, rfl⟩ |
    ⟨bs, addr, rfl, h₄, hgrow, rfl⟩ | ⟨bs, addr, tr₁, t₁, tr₂, rfl, h₄, rfl, hgrow, hend⟩⟩ :=
      exec_receiveUdpWith h
  · exact settles_failed trivial
  · by_cases h₀ : bs.val.length = 0
    · exact .closed (if_pos h₀) [] _ rfl (List.forall_mem_nil _) h₀
    · rw [if_neg h₀]
      exact .broken (by decide) [] _ rfl (List.forall_mem_nil _) (.inr (.inl ⟨h₀, h₄⟩))
  · exact ((settles_growBuffer hgrow).2 rfl).cons (lossless_peek h₄)
  · have hsize := Bytes.leNat_lt bs.val
    rw [h₄] at hsize
    exact ((settles_takeDatagram hsize hend).append_left ((settles_growBuffer hgrow).1 rfl)).cons
      (lossless_peek h₄)

end

/-! ### The pass -/

-- A call that shuts nothing down.
private def StaysOpen (ev : Event posix) : Prop := ∀ fd, ev.call ≠ .sys (.shutdown fd)

-- What a reception of the client comes to.
private structure Conclusive (m : ClientProc Int) : Prop where
  judged : Judged .client m
  stays : Emits StaysOpen m
  outcome : ∀ t tr n t', Exec m t tr n t' → Settles n tr

-- A routine keeps track: `errno` is as its calls leave it, and it shuts the connection down exactly
-- if they lose it.
private def KeepsTrack {α : Type} (p : ClientProc α) : Prop :=
  ∀ ⦃t tr a t'⦄, Exec p t tr a t' →
    t'.errno = errnoAfter t.errno tr ∧ (ShutsDown tr ↔ Loses t.errno tr)

section

variable {α β : Type} {p : ClientProc α}

private theorem not_shutsDown_of_staysOpen {tr : Trace posix} (h : ∀ ev ∈ tr, StaysOpen ev) :
    ¬ ShutsDown tr := by
  rintro ⟨ev, hev, fd, hfd⟩
  exact h ev hev fd hfd

private theorem not_shutsDown_nil : ¬ ShutsDown [] :=
  not_shutsDown_of_staysOpen (List.forall_mem_nil _)

private theorem keepsTrack_pure (a : α) : KeepsTrack (pure a : ClientProc α) := by
  intro t tr b t' h
  obtain ⟨rfl, -, rfl⟩ := exec_pure.mp h
  exact ⟨rfl, iff_of_false not_shutsDown_nil not_loses_nil⟩

private theorem keepsTrack_self : KeepsTrack (self : ClientProc UdtcpClient) := by
  intro t tr c t' h
  obtain ⟨rfl, -, rfl⟩ := exec_self.mp h
  exact ⟨rfl, iff_of_false not_shutsDown_nil not_loses_nil⟩

private theorem KeepsTrack.bind {f : α → ClientProc β} (hp : KeepsTrack p)
    (hf : ∀ a, KeepsTrack (f a)) : KeepsTrack (p >>= f) := by
  intro t tr b t' h
  obtain ⟨tr₁, a, t₁, tr₂, rfl, h₁, h₂⟩ := exec_bind.mp h
  obtain ⟨herrno₁, hiff₁⟩ := hp h₁
  obtain ⟨herrno₂, hiff₂⟩ := hf a h₂
  rw [herrno₁] at herrno₂ hiff₂
  rw [errnoAfter_append, shutsDown_append, loses_append]
  exact ⟨herrno₂, or_congr hiff₁ hiff₂⟩

private theorem KeepsTrack.ite {c : Prop} [Decidable c] {q : ClientProc α} (hp : KeepsTrack p)
    (hq : KeepsTrack q) : KeepsTrack (if c then p else q) := by
  split
  · exact hp
  · exact hq

private theorem KeepsTrack.loop {body : β → ClientProc (β ⊕ α)} (h : ∀ b, KeepsTrack (body b))
    (fuel : Nat) (b : β) : KeepsTrack (Routine.loop body fuel b) := by
  induction fuel generalizing b with
  | zero => exact fun _ _ _ _ hl ↦ hl.elim
  | succ fuel ih =>
    refine (h b).bind fun o ↦ ?_
    cases o with
    | inl b' => exact ih b'
    | inr a => exact keepsTrack_pure a

private theorem lossless_pollLoop (on : Bool) : Lossless ⟨.pollLoop, on⟩ :=
  lossless_of_not_receives id id id id

private theorem keepsTrack_pollLoop : KeepsTrack (request .pollLoop : ClientProc Bool) := by
  intro t tr on t' h
  obtain ⟨rfl, rfl⟩ := exec_request.mp h
  exact ⟨rfl, iff_of_false
    (not_shutsDown_of_staysOpen (List.forall_mem_singleton.mpr fun _ ↦ nofun))
    (not_loses_of_lossless (List.forall_mem_singleton.mpr (lossless_pollLoop on)))⟩

end

namespace Client

private theorem receiverCalls_staysOpen (fd : Fd) : ReceiverCalls StaysOpen fd where
  poll _ _ h := by cases h
  recvWord _ _ h := by cases h
  recvBuffer _ _ _ _ _ _ h := by cases h
  peek _ _ h := by cases h
  take _ _ _ _ _ _ h := by cases h
  newBuffer _ _ _ h := by cases h
  freeBuffer _ _ _ h := by cases h

private theorem conclusive_receiveTcp : Conclusive receiveTcp where
  judged := judged_receiveTcp
  stays t tr n t' h := by
    obtain ⟨u, hu, -⟩ := exec_receiveTcp.mp h
    exact emits_receiveTcpWith (receiverCalls_staysOpen _) (fun f hf data u fd h ↦ by cases h)
      _ _ _ _ _ hu
  outcome t tr n t' h := by
    obtain ⟨u, hu, -⟩ := exec_receiveTcp.mp h
    exact settles_receiveTcpWith hu

private theorem conclusive_receiveUdp : Conclusive receiveUdp where
  judged := judged_receiveUdp
  stays t tr n t' h := by
    obtain ⟨u, hu, -⟩ := exec_receiveUdp.mp h
    exact emits_receiveUdpWith (receiverCalls_staysOpen _).toDatagramCalls
      (fun _ f hf data u fd h ↦ by cases h) _ _ _ _ _ hu
  outcome t tr n t' h := by
    obtain ⟨u, hu, -⟩ := exec_receiveUdp.mp h
    exact settles_receiveUdpWith hu

section

variable {receive : ClientProc Int} {t t' : Thread UdtcpClient} {tr : Trace posix} {n : Int}

private theorem settles_draining (hm : Conclusive receive)
    (h : Draining receive (0 < ·) t tr n t') :
    Settles n tr ∧ ∀ ev ∈ tr, StaysOpen ev := by
  induction h with
  | first h => exact ⟨hm.outcome _ _ _ _ h, hm.stays _ _ _ _ h⟩
  | @round tr tr' n n' t₁ t₂ h hagain hround ih =>
    obtain ⟨hconcl, hstays⟩ := ih
    have hpos : 0 < n := of_decide_eq_true hagain
    have hcalm : ∀ ev ∈ tr, Lossless ev := by
      cases hconcl with
      | message _ hcalm => exact hcalm
      | closed hn => omega
      | broken hn => omega
    refine ⟨((hm.outcome _ _ _ _ hround).cons (lossless_pollLoop true)).append_left hcalm, ?_⟩
    exact List.forall_mem_append.mpr
      ⟨hstays, List.forall_mem_cons.mpr ⟨fun _ ↦ nofun, hm.stays _ _ _ _ hround⟩⟩

private theorem keepsTrack_serveSocket (hm : Conclusive receive) (fuel : Nat) :
    KeepsTrack (serveSocket fuel receive) := by
  intro t tr o t' h
  unfold serveSocket at h
  obtain ⟨tr₁, ret, t₁, rest, rfl, h₁, hrest⟩ := exec_bind.mp h
  have herrno := (hm.judged.blind_drain fuel h₁).1
  obtain ⟨done, on, rfl, hdraining⟩ := exec_drain h₁
  obtain ⟨hconcl, hstays⟩ := settles_draining hm hdraining
  have hopen : ¬ ShutsDown (done ++ [⟨.pollLoop, on⟩]) :=
    not_shutsDown_of_staysOpen
      (List.forall_mem_append.mpr ⟨hstays, List.forall_mem_singleton.mpr fun _ ↦ nofun⟩)
  have hlost : Loses t.errno (done ++ [⟨.pollLoop, on⟩]) ↔
      ret = 0 ∨ ret < 0 ∧ t₁.errno ≠ .ewouldblock := by
    have hflag := not_loses_of_lossless (e := errnoAfter t.errno done)
      (List.forall_mem_singleton.mpr (lossless_pollLoop on))
    rw [loses_append, or_iff_left hflag, hconcl.loses_iff, herrno, errnoAfter_append]
    rfl
  have hdrop (h : Exec (disconnect >>= fun _ ↦ pure (some UdtcpPoll.error)) t₁ rest o t')
      (hl : ret = 0 ∨ ret < 0 ∧ t₁.errno ≠ .ewouldblock) :
      t'.errno = errnoAfter t.errno (done ++ [⟨.pollLoop, on⟩] ++ rest) ∧
        (ShutsDown (done ++ [⟨.pollLoop, on⟩] ++ rest) ↔
          Loses t.errno (done ++ [⟨.pollLoop, on⟩] ++ rest)) := by
    obtain ⟨tr₂, _, t₂, _, rfl, hdis, hret⟩ := exec_bind.mp h
    obtain ⟨rfl, rfl, rfl⟩ := exec_pure.mp hret
    rw [List.append_nil, errnoAfter_append, ← herrno, shutsDown_append, loses_append]
    refine ⟨(steady_disconnect.blind hdis).1, iff_of_true (.inr ?_) (.inl (hlost.mpr hl))⟩
    obtain ⟨fd, r, fd', r', infos, rfl⟩ := exec_disconnect hdis
    exact ⟨_, List.mem_cons_self .., fd, rfl⟩
  have hstay (h : Exec (pure none : ClientProc (Option UdtcpPoll)) t₁ rest o t')
      (hl : ¬ (ret = 0 ∨ ret < 0 ∧ t₁.errno ≠ .ewouldblock)) :
      t'.errno = errnoAfter t.errno (done ++ [⟨.pollLoop, on⟩] ++ rest) ∧
        (ShutsDown (done ++ [⟨.pollLoop, on⟩] ++ rest) ↔
          Loses t.errno (done ++ [⟨.pollLoop, on⟩] ++ rest)) := by
    obtain ⟨rfl, rfl, rfl⟩ := exec_pure.mp h
    rw [List.append_nil]
    exact ⟨herrno, iff_of_false hopen (hlost.not.mpr hl)⟩
  rw [exec_ite] at hrest
  split at hrest
  · next hneg =>
    have hjudged := exec_errno_bind.mp hrest
    rw [exec_ite] at hjudged
    split at hjudged
    · next hne => exact hdrop hjudged (.inr ⟨hneg, hne⟩)
    · next heq => exact hstay hjudged fun hl ↦ hl.elim (fun h₀ ↦ by omega) fun hl ↦ heq hl.2
  · next hneg =>
    rw [exec_ite] at hrest
    split at hrest
    · next hzero => exact hdrop hrest (.inl hzero)
    · next hzero => exact hstay hrest fun hl ↦ hl.elim hzero fun hl ↦ hneg hl.1

private theorem keepsTrack_serveEntry (fuel i : Nat) : KeepsTrack (serveEntry fuel i) :=
  keepsTrack_self.bind fun _ ↦ .ite (keepsTrack_pure _) (.ite (keepsTrack_pure _)
    (.ite (keepsTrack_serveSocket conclusive_receiveTcp fuel)
      (.ite (keepsTrack_serveSocket conclusive_receiveUdp fuel) (keepsTrack_pure _))))

private theorem keepsTrack_scanEntry (fuel i : Nat) : KeepsTrack (scanEntry fuel i) := by
  refine keepsTrack_pollLoop.bind fun on ↦ keepsTrack_self.bind fun c ↦ .ite ?_ (keepsTrack_pure _)
  refine (keepsTrack_serveEntry fuel i).bind fun o ↦ ?_
  cases o with
  | none => exact keepsTrack_pure _
  | some result => exact keepsTrack_pure _

end

end Client

/-- **A pass disconnects** exactly if the answers to its calls lose the connection, given the
`errno` it starts with. -/
theorem shutsDown_udtcpClientPoll_iff {fuel : Nat} {timeout : Int} {t t' : Thread UdtcpClient}
    {tr : Trace posix} {result : UdtcpPoll}
    (h : Exec (udtcpClientPoll fuel timeout) t tr result t') :
    ShutsDown tr ↔ PassLoses t.errno tr := by
  unfold udtcpClientPoll at h
  have hpoll := exec_self_bind.mp h
  obtain ⟨reply, rest, rfl, hrest⟩ := exec_syscall_bind.mp hpoll
  have hfirst : ShutsDown (⟨.sys (.poll t.self.polled timeout), reply⟩ :: rest) ↔
      ShutsDown rest := by
    rw [← List.singleton_append, shutsDown_append]
    exact or_iff_right
      (not_shutsDown_of_staysOpen (List.forall_mem_singleton.mpr fun _ ↦ nofun))
  rw [hfirst]
  cases reply with
  | error e =>
    have hret := exec_errno_bind.mp hrest
    rw [exec_ite] at hret
    split at hret
    · obtain ⟨rfl, -⟩ := exec_pure.mp hret
      exact iff_of_false not_shutsDown_nil not_loses_nil
    · obtain ⟨rfl, -⟩ := exec_pure.mp hret
      exact iff_of_false not_shutsDown_nil not_loses_nil
  | ok revents =>
    have hscan := exec_update_bind.mp hrest
    rw [exec_ite] at hscan
    split at hscan
    · obtain ⟨rfl, -⟩ := exec_pure.mp hscan
      exact iff_of_false not_shutsDown_nil not_loses_nil
    · exact (KeepsTrack.loop (Client.keepsTrack_scanEntry fuel) fuel 0 hscan).2

end Udtcp
