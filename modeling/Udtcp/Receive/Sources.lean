import Udtcp.Client.Polled
import Udtcp.Receive.Queue
import Udtcp.Transfer.RoundTrip

/-!
# Where a datagram comes from

What one call of the two `receive_udp` functions does with the datagram at the head of its queue
(`server_poll.c:320–411`, `client_poll.c:149–243`), and whom it takes for the sender. The server
looks the source up among its clients; the client does not look at it.
-/

namespace Udtcp

open Interaction Routine

/-- The allocation that failed, by the `errno` it left. -/
def refusalOf : (c : Call) → c.Reply → Option Errno
  | .sys (.newBuffer _), .error e => some e
  | _, _ => none

/-- The first allocation of a trace that failed. -/
def refusal (tr : Trace posix) : Option Errno := tr.findSome? fun e ↦ refusalOf e.call e.reply

namespace Datagram

/-- The number a datagram starts with. -/
def size (d : Datagram) : Nat := Bytes.leNat (d.bytes.take 4)

/-- A datagram that holds as many bytes as its size field says. -/
def Complete (d : Datagram) : Prop := d.HasSize ∧ 4 + d.size ≤ d.bytes.length

/-- The message in a datagram. -/
def payload (d : Datagram) : List UInt8 := Bytes.slice d.bytes 4 d.size

/-- No larger datagram fits into an IPv4 packet. -/
def Fits (d : Datagram) : Prop := d.bytes.length ≤ 65507

/-- The source of a datagram is the UDP address in a record. -/
def From (d : Datagram) (r : UdtcpInfos) : Prop :=
  r.udpClientAddr.sAddr = d.source.sAddr ∧ r.udpClientAddr.sinPort = d.source.sinPort

end Datagram

/-! ### One call -/

section

variable {fd : Fd} {route : Route} {success : Nat → Int} {n : Int} {t t' : Thread ReceiveBuffer}
  {tr : Trace posix} {d : Datagram} {q q' : List Datagram}

/-- An announced size fits into four bytes. -/
theorem Datagram.size_lt (d : Datagram) : d.size < 2 ^ 32 := by
  have hlt := Bytes.leNat_lt (d.bytes.take 4)
  have hle : (d.bytes.take 4).length ≤ 4 := List.length_take_le _ _
  exact Nat.lt_of_lt_of_le hlt (Nat.pow_le_pow_right (by decide) hle)

@[simp] private theorem refusal_nil : refusal [] = none := rfl

private theorem refusal_eq_none {tr : Trace posix} (h : ∀ e ∈ tr, refusalOf e.call e.reply = none) :
    refusal tr = none :=
  List.findSome?_eq_none_iff.mpr h

private theorem refusal_append {tr₁ tr₂ : Trace posix} (h : refusal tr₂ = none) :
    refusal (tr₁ ++ tr₂) = refusal tr₁ := by
  rw [refusal, List.findSome?_append]
  change (refusal tr₁).or (refusal tr₂) = _
  rw [h, Option.or_none]

/-- Making room: nothing is handed over, and `errno` is that of the allocation if it failed. -/
theorem growBuffer_heard {need : Nat} {ok : Bool} (h : Exec (growBuffer need) t tr ok t') :
    callbacksOf tr = [] ∧ (ok = true ↔ refusal tr = none) ∧
      t'.errno = (refusal tr).getD t.errno ∧
      (ok = true → 0 < need → t.self.Present → t'.self.bufferData.isSome) := by
  rcases exec_growBuffer.mp h with ⟨hle, rfl, rfl, rfl⟩ | ⟨-, e, rfl, rfl, rfl⟩ |
    ⟨-, block, rfl, rfl, rfl⟩
  · exact ⟨rfl, by simp, rfl, fun _ hpos hp ↦ hp (by omega)⟩
  · exact ⟨rfl, by simp [refusal, refusalOf], rfl, nofun⟩
  · have hrel : ∀ e ∈ t.self.release,
        refusalOf e.call e.reply = none ∧ callbackOf e.call = none := by
      intro e he
      obtain ⟨_, _, rfl⟩ := ReceiveBuffer.mem_release he
      exact ⟨rfl, rfl⟩
    have hnone : refusal (⟨.sys (.newBuffer (need % 2 ^ 32)), .ok block⟩ :: t.self.release) =
        none := by
      apply refusal_eq_none
      intro e he
      rcases List.mem_cons.mp he with rfl | he
      · rfl
      · exact (hrel e he).1
    refine ⟨?_, iff_of_true rfl hnone, by rw [hnone]; rfl, fun _ _ _ ↦ rfl⟩
    apply callbacksOf_eq_nil
    intro e he
    rcases List.mem_cons.mp he with rfl | he
    · rfl
    · exact (hrel e he).2

private theorem growBuffer_unseen {need : Nat} {ok : Bool}
    (h : Exec (growBuffer need) t tr ok t') : ∀ e ∈ tr, receptionOf e.call e.reply = none := by
  rcases exec_growBuffer.mp h with ⟨-, rfl, -, -⟩ | ⟨-, e, rfl, -, -⟩ | ⟨-, block, rfl, -, -⟩
  · nofun
  · exact List.forall_mem_singleton.mpr rfl
  · refine List.forall_mem_cons.mpr ⟨rfl, fun e he ↦ ?_⟩
    obtain ⟨_, _, rfl⟩ := ReceiveBuffer.mem_release he
    rfl

/-- A delivery calls the callback, if there is one, and refuses nothing. -/
theorem delivery_heard {deliver : Option (List UInt8 → Callback)} {data : List UInt8}
    (h : delivery deliver data tr) :
    callbacksOf tr = (deliver.map fun f ↦ f data).toList ∧ refusal tr = none := by
  cases deliver with
  | none =>
    have htr : tr = [] := h
    rw [htr]
    exact ⟨rfl, rfl⟩
  | some f =>
    obtain ⟨u, rfl⟩ := h
    exact ⟨rfl, rfl⟩

/-- What becomes of the datagram at the head of the queue. -/
structure Handled (route : Route) (success : Nat → Int) (d : Datagram) (t : Thread ReceiveBuffer)
    (tr : Trace posix) (n : Int) (t' : Thread ReceiveBuffer) : Prop where
  errno : t'.errno = (refusal tr).getD t.errno
  taken : d.Complete → refusal tr = none → ∀ deliver, route d.source = some deliver →
    n = success d.size ∧ ∃ data, callbacksOf tr = (deliver.map fun f ↦ f data).toList ∧
      (t.self.Present → data = d.payload)
  unknown : d.Complete → route d.source = none → callbacksOf tr = [] ∧ n = -1
  refused : ¬ (d.Complete ∧ refusal tr = none) →
    callbacksOf tr = [] ∧ n = if d.bytes = [] then 0 else -1

private theorem takeDatagram_handled (h : Exec (takeDatagram fd route success d.size) t tr n t')
    (ha : (queueKernel fd).Accepts (d :: q) tr q') (hsize : d.HasSize) (hd : d.Fits) :
    refusal tr = none ∧ t'.errno = t.errno ∧
      (d.Complete → ∀ deliver, route d.source = some deliver → n = success d.size ∧
        ∃ data, callbacksOf tr = (deliver.map fun f ↦ f data).toList ∧
          (t.self.bufferData.isSome → data = d.payload)) ∧
      (¬ d.Complete ∨ route d.source = none → callbacksOf tr = [] ∧ n = -1) := by
  obtain ⟨r, rest, rfl, hcases⟩ := exec_takeDatagram_cases h
  obtain ⟨q₁, hq, -⟩ := ha
  have hrefusal : refusal (⟨.sys (.recvfrom fd (t.self.target 0) (4 + d.size) false), r⟩ :: rest) =
      refusal rest := rfl
  have hcalls : callbacksOf (⟨.sys (.recvfrom fd (t.self.target 0) (4 + d.size) false), r⟩ ::
      rest) = callbacksOf rest := rfl
  rw [hrefusal, hcalls]
  cases r with
  | error e => simp [queueKernel, receptionOf] at hq
  | ok r =>
    obtain ⟨⟨bs, hbs⟩, addr⟩ := r
    obtain ⟨⟨rfl, rfl⟩, -⟩ : (bs = d.bytes.take (4 + d.size) ∧ addr = d.source) ∧ q₁ = q := by
      simpa [queueKernel, receptionOf] using hq
    obtain ⟨_, he, -⟩ | ⟨_, _, he, rfl, hend⟩ := hcases
    · cases he
    cases he
    have hmin : (d.bytes.take (4 + d.size)).length = min (4 + d.size) d.bytes.length :=
      List.length_take
    have hfour : 4 ≤ d.bytes.length := hsize
    have hlen : d.bytes.length ≤ 65507 := hd
    have hint : cInt (d.bytes.take (4 + d.size)).length =
        (min (4 + d.size) d.bytes.length : Nat) := by
      rw [cInt_eq (by omega), if_pos (by omega), hmin]
    have hagrees : ((min (4 + d.size) d.bytes.length : Nat) - 4 : Int) % 2 ^ 64 = d.size ↔
        d.Complete := by
      have hlt := d.size_lt
      rw [show d.Complete ↔ 4 + d.size ≤ d.bytes.length from ⟨fun hc ↦ hc.2, fun hc ↦ ⟨hsize, hc⟩⟩]
      omega
    have hpos : (0 : Int) < (min (4 + d.size) d.bytes.length : Nat) := by omega
    dsimp only at hend
    rw [hint, hagrees, if_neg (by omega)] at hend
    rcases hend with ⟨rfl, rfl, hroute⟩ | ⟨-, hc, rfl, deliver, hroute, hdeliver⟩
    · refine ⟨rfl, rfl, fun hc deliver hsome ↦ ?_, fun _ ↦ ⟨rfl, rfl⟩⟩
      rw [hroute hpos hc] at hsome
      cases hsome
    · obtain ⟨hcalled, hrest⟩ := delivery_heard hdeliver
      refine ⟨hrest, rfl, fun _ deliver' hsome ↦ ?_, fun hno ↦ ?_⟩
      · obtain rfl : deliver = deliver' := Option.some.inj (hroute.symm.trans hsome)
        refine ⟨rfl, _, hcalled, fun hp ↦ ?_⟩
        obtain ⟨blk, hblk⟩ := Option.isSome_iff_exists.mp hp
        have hread := Memory.read_write_zero blk.mem (d.bytes.take (4 + d.size)) 4 d.size
          (by rw [hmin]; exact Nat.le_min.mpr ⟨Nat.le_refl _, hc.2⟩)
        simp only [ReceiveBuffer.fill, ReceiveBuffer.bytes, hblk, Option.map_some]
        rw [hread, Bytes.slice, List.drop_take, List.take_take, Nat.add_sub_cancel_left,
          Nat.min_self]
        rfl
      · rcases hno with hno | hno
        · exact absurd hc hno
        · rw [hroute] at hno
          cases hno

/-- **One datagram.** -/
theorem receiveUdpWith_handled (h : Exec (receiveUdpWith fd route success) t tr n t')
    (ha : (queueKernel fd).Accepts (d :: q) tr q') (hd : d.Fits) :
    Handled route success d t tr n t' := by
  obtain ⟨size, rest, rfl, hcases⟩ := exec_receiveUdpWith h
  obtain ⟨q₁, hq, ha⟩ := ha
  have hrefusal : refusal (⟨.sys (.recvfrom fd .word 4 true), size⟩ :: rest) = refusal rest := rfl
  have hcalls : callbacksOf (⟨.sys (.recvfrom fd .word 4 true), size⟩ :: rest) =
      callbacksOf rest := rfl
  cases size with
  | error e => simp [queueKernel, receptionOf] at hq
  | ok r =>
    obtain ⟨⟨bs, hbs⟩, addr⟩ := r
    obtain ⟨⟨rfl, rfl⟩, rfl⟩ : (bs = d.bytes.take 4 ∧ addr = d.source) ∧ q₁ = d :: q := by
      simpa [queueKernel, receptionOf] using hq
    have hfour : (d.bytes.take 4).length = 4 ↔ d.HasSize := by
      rw [List.length_take, Datagram.HasSize]
      omega
    have hsome (hsize : d.HasSize) : d.bytes ≠ [] := by
      intro hnil
      rw [Datagram.HasSize, hnil] at hsize
      exact absurd hsize (by decide)
    rcases hcases with ⟨_, he, -⟩ | ⟨_, _, he, h₄, rfl, rfl, rfl⟩ | ⟨_, _, he, h₄, hg, rfl⟩ |
      ⟨_, _, tr₁, t₁, tr₂, he, h₄, rfl, hg, ht⟩
    · cases he
    · -- no size field: the datagram stays where it is
      cases he
      have hno : ¬ d.Complete := fun hc ↦ h₄ (hfour.mpr hc.1)
      refine ⟨rfl, fun hc ↦ absurd hc hno, fun hc ↦ absurd hc hno, fun _ ↦ ⟨rfl, ?_⟩⟩
      simp [List.length_eq_zero_iff]
    · -- no buffer could be had for it
      cases he
      obtain ⟨hheard, hok, herrno, -⟩ := growBuffer_heard hg
      have hfail : refusal rest ≠ none := fun hnone ↦ Bool.false_ne_true (hok.mpr hnone)
      refine ⟨herrno, fun _ hr ↦ absurd hr hfail, fun _ _ ↦ ⟨hheard, rfl⟩, fun _ ↦ ⟨hheard, ?_⟩⟩
      rw [if_neg (hsome (hfour.mp h₄))]
    · cases he
      obtain ⟨hheard, hok, herrno, hpresent⟩ := growBuffer_heard hg
      obtain ⟨q₂, hg', ha⟩ := (Kernel.accepts_append _).mp ha
      obtain ⟨rfl, -⟩ := growBuffer_dequeues hg hg'
      have hsize : d.HasSize := hfour.mp h₄
      obtain ⟨hrest, hlast, htaken, hrefused⟩ := takeDatagram_handled ht ha hsize hd
      have hnone : refusal (tr₁ ++ tr₂) = none := (refusal_append hrest).trans (hok.mp rfl)
      have hheard' : callbacksOf (tr₁ ++ tr₂) = callbacksOf tr₂ := by
        rw [callbacksOf_append, hheard]
        rfl
      have herrno' : t'.errno = t.errno := by
        rw [hlast, herrno, hok.mp rfl]
        rfl
      rw [← hheard', ← hcalls] at htaken hrefused
      refine ⟨?_, fun hc _ deliver hroute ↦ ?_, fun _ hroute ↦ hrefused (.inr hroute), fun hno ↦ ?_⟩
      · rw [hrefusal, hnone]
        exact herrno'
      · obtain ⟨hn, data, hdata, hpayload⟩ := htaken hc deliver hroute
        exact ⟨hn, data, hdata, fun hp ↦ hpayload (hpresent rfl (by omega) hp)⟩
      · obtain ⟨hnil, rfl⟩ := hrefused (.inl fun hc ↦ hno ⟨hc, by rw [hrefusal, hnone]⟩)
        exact ⟨hnil, by rw [if_neg (hsome hsize)]⟩

/-- Whatever is handed over goes where the source of the datagram leads. -/
theorem receiveUdpWith_routed (h : Exec (receiveUdpWith fd route success) t tr n t')
    (ha : (queueKernel fd).Accepts (d :: q) tr q') :
    ∀ c ∈ callbacksOf tr, ∃ f data, route d.source = some (some f) ∧ c = f data := by
  obtain ⟨size, rest, rfl, hcases⟩ := exec_receiveUdpWith h
  obtain ⟨q₁, hq, ha⟩ := ha
  have hcalls : callbacksOf (⟨.sys (.recvfrom fd .word 4 true), size⟩ :: rest) =
      callbacksOf rest := rfl
  rw [hcalls]
  rcases hcases with ⟨_, -, rfl, -⟩ | ⟨_, _, -, -, rfl, -, -⟩ | ⟨_, _, -, -, hg, -⟩ |
    ⟨bs, addr, tr₁, t₁, tr₂, rfl, -, rfl, hg, ht⟩
  · exact fun c hc ↦ absurd hc List.not_mem_nil
  · exact fun c hc ↦ absurd hc List.not_mem_nil
  · rw [(growBuffer_heard hg).1]
    exact fun c hc ↦ absurd hc List.not_mem_nil
  · have hq₁ : q₁ = d :: q :=
      (by simpa [queueKernel, receptionOf] using hq : _ ∧ q₁ = d :: q).2
    obtain ⟨q₂, hg', ht'⟩ := (Kernel.accepts_append _).mp ha
    obtain ⟨rfl, -⟩ := growBuffer_dequeues hg hg'
    rw [callbacksOf_append, (growBuffer_heard hg).1, List.nil_append]
    obtain ⟨r, rest, rfl, ⟨_, -, rfl, -⟩ | ⟨bs', addr', rfl, -, hend⟩⟩ := exec_takeDatagram_cases ht
    · exact fun c hc ↦ absurd hc List.not_mem_nil
    · obtain ⟨q₃, hq, -⟩ := ht'
      rw [hq₁] at hq
      have haddr : addr' = d.source :=
        (by simpa [queueKernel, receptionOf] using hq : (_ ∧ addr' = d.source) ∧ _).1.2
      rcases hend with ⟨rfl, -⟩ | ⟨-, -, -, deliver, hroute, hdeliver⟩
      · exact fun c hc ↦ absurd hc List.not_mem_nil
      · intro c hc
        have hmem : c ∈ callbacksOf rest := hc
        rw [(delivery_heard hdeliver).1] at hmem
        obtain ⟨f, rfl, rfl⟩ := Option.map_eq_some_iff.mp (Option.mem_toList.mp hmem)
        exact ⟨f, _, haddr ▸ hroute, rfl⟩

end

/-! ### A datagram that is received -/

/-- Calls that are not datagram receptions leave the queue alone. -/
theorem queueKernel_accepts_quiet {sock : Fd} {tr : Trace posix} {q : List Datagram}
    (h : ∀ e ∈ tr, receptionOf e.call e.reply = none) : (queueKernel sock).Accepts q tr q := by
  induction tr with
  | nil => exact rfl
  | cons e tr ih =>
    obtain ⟨hhead, htail⟩ := List.forall_mem_cons.mp h
    refine ⟨q, ?_, ih htail⟩
    rw [queueKernel, hhead]

section

variable {fd : Fd} {route : Route} {success : Nat → Int} {t : Thread ReceiveBuffer} {d : Datagram}
  {q : List Datagram}

private theorem may_takeDatagram (hc : d.Complete) (hd : d.Fits) :
    May (takeDatagram fd route success d.size) t fun tr _ _ ↦
      (queueKernel fd).Accepts (d :: q) tr q ∧ refusal tr = none := by
  have hmin : (d.bytes.take (4 + d.size)).length = 4 + d.size := by
    rw [List.length_take, Nat.min_eq_left hc.2]
  have hlen : d.bytes.length ≤ 65507 := hd
  have hle := hc.2
  have hint : cInt (d.bytes.take (4 + d.size)).length = (4 + d.size : Nat) := by
    rw [hmin, cInt_eq (by omega), if_pos (by omega)]
  have hlt := d.size_lt
  have haccepts {r : SysCall.Result (.recvfrom fd (t.self.target 0) (4 + d.size) false)}
      {rest : Trace posix} (hr : (r.1.val, r.2) = (d.bytes.take (4 + d.size), d.source))
      (hrest : ∀ e ∈ rest, receptionOf e.call e.reply = none ∧ refusalOf e.call e.reply = none) :
      (queueKernel fd).Accepts (d :: q)
        (⟨.sys (.recvfrom fd (t.self.target 0) (4 + d.size) false), .ok r⟩ :: rest) q ∧
      refusal (⟨.sys (.recvfrom fd (t.self.target 0) (4 + d.size) false), .ok r⟩ :: rest) =
        none := by
    refine ⟨⟨q, ?_, queueKernel_accepts_quiet fun e he ↦ (hrest e he).1⟩,
      refusal_eq_none fun e he ↦ ?_⟩
    · simp [queueKernel, receptionOf, hr]
    · rcases List.mem_cons.mp he with rfl | he
      · rfl
      · exact (hrest e he).2
  unfold takeDatagram
  refine may_self_bind (may_syscall_bind (.ok (⟨d.bytes.take (4 + d.size), ?_⟩, d.source)) ?_)
  · exact List.length_take_le _ _
  refine may_update_bind ?_
  dsimp only
  rw [hint]
  refine may_if_neg (by omega) (may_if_neg (by omega) (may_if_neg (by omega) ?_))
  cases hroute : route d.source with
  | none => exact may_pure (haccepts rfl (by simp))
  | some deliver =>
    cases deliver with
    | none => exact may_pure (haccepts rfl (by simp))
    | some f =>
      refine may_self_bind (may_issue_bind () (may_pure (haccepts rfl fun e he ↦ ?_)))
      rw [List.mem_singleton.mp he]
      exact ⟨rfl, rfl⟩

/-- A complete datagram at the head of the queue is taken when memory is there. -/
theorem may_receiveUdpWith (hc : d.Complete) (hd : d.Fits) :
    May (receiveUdpWith fd route success) t fun tr _ _ ↦
      (queueKernel fd).Accepts (d :: q) tr q ∧ refusal tr = none := by
  have hfour : (d.bytes.take 4).length = 4 := by
    rw [List.length_take, Nat.min_eq_left hc.1]
  obtain ⟨tr, t₁, hg, -, -⟩ := exists_growBuffer t (4 + d.size)
  unfold receiveUdpWith
  refine may_syscall_bind (.ok (⟨d.bytes.take 4, Nat.le_of_eq hfour⟩, d.source)) ?_
  refine may_if_neg (by rw [hfour]; decide) (may_if_neg (not_not.mpr hfour) (may_bind ?_))
  refine ⟨tr, true, t₁, hg, may_if_pos rfl ?_⟩
  refine (may_takeDatagram (q := q) hc hd).mono fun tr₂ _ _ ⟨ha, hnone⟩ ↦ ?_
  obtain ⟨-, hok, -, -⟩ := growBuffer_heard hg
  refine ⟨⟨d :: q, ?_, (Kernel.accepts_append _).mpr ⟨d :: q, ?_, ha⟩⟩, ?_⟩
  · simp [queueKernel, receptionOf]
  · exact queueKernel_accepts_quiet (growBuffer_unseen hg)
  · exact (refusal_append hnone).trans (hok.mp rfl)

end

/-! ### Attribution -/

/-- What was handed over came from the address in the record it was handed over with, one of those
the object `lists`; and a datagram that came from none of these addresses was not handed over and
left the connections as they were. -/
def TrueToSource (lists : Nat → UdtcpInfos → Prop) (d : Datagram) (heard : List Callback)
    (unchanged : Prop) : Prop :=
  (∀ c ∈ heard, ∃ slot r data, c = .receiveUdp slot r data ∧ lists slot r ∧ d.From r) ∧
    ((∀ slot r, lists slot r → ¬ d.From r) → heard = [] ∧ unchanged)

/-- The records of the clients. -/
def UdtcpServer.Lists {m : Nat} (s : UdtcpServer m) (slot : Nat) (r : UdtcpInfos) : Prop :=
  2 ≤ slot ∧ slot < s.pollNfds ∧ r = s.infos slot

/-- The record of the server. -/
def UdtcpClient.Lists (c : UdtcpClient) (slot : Nat) (r : UdtcpInfos) : Prop :=
  slot = 1 ∧ r = c.serverInfos

/-- `client_poll.c:339–357`: what a reception returned makes the pass disconnect. -/
def Client.Drops (n : Int) (e : Errno) : Prop := (n < 0 ∧ e ≠ .ewouldblock) ∨ n = 0

private theorem udtcpGetInfos_eq_some {m : Nat} {s : UdtcpServer m} {addr : SockaddrIn} {slot : Nat}
    (h : udtcpGetInfos s addr = some slot) : 2 ≤ slot ∧ slot < s.pollNfds ∧
      (s.infos slot).udpClientAddr.sAddr = addr.sAddr ∧
      (s.infos slot).udpClientAddr.sinPort = addr.sinPort := by
  have hmem : slot ∈ List.range' 2 (s.pollNfds - 2) := List.mem_of_find?_eq_some h
  have hfound := List.find?_some h
  rw [List.mem_range'_1] at hmem
  rw [decide_eq_true_eq] at hfound
  exact ⟨hmem.1, by omega, hfound⟩

/-- **Who sent it.** The server hands a datagram over only as from the client it came from, and one
from anywhere else changes nothing. The client does so exactly if the datagram comes from its
server, or is not handed over, for want of a callback or of its being complete, and the pass goes
on behind it. -/
theorem udp_true_to_source_iff (m : Nat) :
    (∀ (t t' : Thread (UdtcpServer m)) tr n d q q', Exec receiveUdp t tr n t' →
      (queueKernel t.self.serverInfos.udpServerSocket).Accepts (d :: q) tr q' →
      TrueToSource t.self.Lists d (callbacksOf tr)
        (t'.self = { t.self with buffer := t'.self.buffer })) ∧
    (∀ (t t' : Thread UdtcpClient) tr n d q q', d.Fits → Exec Client.receiveUdp t tr n t' →
      (queueKernel t.self.clientInfos.udpServerSocket).Accepts (d :: q) tr q' →
      (TrueToSource t.self.Lists d (callbacksOf tr)
        (t'.self = { t.self with buffer := t'.self.buffer } ∧ ¬ Client.Drops n t'.errno) ↔
        d.From t.self.serverInfos ∨
        (d.Complete ∧ refusal tr = none ∧ t.self.receiveUdpCallback = false) ∨
        (¬ (d.Complete ∧ refusal tr = none) ∧ d.bytes ≠ [] ∧
          (refusal tr).getD t.errno = .ewouldblock))) := by
  constructor
  · intro t t' tr n d q q' h ha
    obtain ⟨u, hu, rfl⟩ := exec_receiveUdp.mp h
    have hrouted := receiveUdpWith_routed hu ha
    have hheard : ∀ c ∈ callbacksOf tr, ∃ slot r data, c = .receiveUdp slot r data ∧
        t.self.Lists slot r ∧ d.From r := by
      intro c hc
      obtain ⟨f, data, hroute, rfl⟩ := hrouted c hc
      obtain ⟨slot, hslot, hf⟩ := Option.map_eq_some_iff.mp hroute
      obtain ⟨hle, hlt, hfrom⟩ := udtcpGetInfos_eq_some hslot
      split at hf
      · cases hf
        exact ⟨slot, _, data, rfl, ⟨hle, hlt, rfl⟩, hfrom⟩
      · cases hf
    refine ⟨hheard, fun hforeign ↦ ⟨List.eq_nil_iff_forall_not_mem.mpr fun c hc ↦ ?_, rfl⟩⟩
    obtain ⟨slot, r, data, -, hlists, hfrom⟩ := hheard c hc
    exact hforeign slot r hlists hfrom
  · intro t t' tr n d q q' hd h ha
    obtain ⟨u, hu, rfl⟩ := Client.exec_receiveUdp.mp h
    have hh := receiveUdpWith_handled hu ha hd
    have hforeign : (∀ slot r, t.self.Lists slot r → ¬ d.From r) ↔ ¬ d.From t.self.serverInfos :=
      ⟨fun h ↦ h 1 _ ⟨rfl, rfl⟩, fun h slot r hr ↦ hr.2 ▸ h⟩
    unfold TrueToSource
    rw [hforeign]
    by_cases hc : d.Complete ∧ refusal tr = none
    · obtain ⟨rfl, data, hheard, -⟩ := hh.taken hc.1 hc.2 _ rfl
      have hstays : ¬ Client.Drops 1 u.errno := by simp [Client.Drops]
      cases hcb : t.self.receiveUdpCallback with
      | false =>
        have hnil : callbacksOf tr = [] := by
          rw [hheard, Client.udpDeliver, hcb]
          rfl
        rw [hnil]
        simp [hc, hstays]
      | true =>
        have hone : callbacksOf tr = [.receiveUdp 1 t.self.serverInfos data] := by
          rw [hheard, Client.udpDeliver, hcb]
          rfl
        rw [hone]
        constructor
        · intro h
          obtain ⟨slot, r, data', -, ⟨-, rfl⟩, hfrom⟩ := h.1 _ (List.mem_singleton_self _)
          exact .inl hfrom
        · rintro (hfrom | ⟨-, -, hno⟩ | ⟨hno, -⟩)
          · refine ⟨fun c hc ↦ ?_, fun hno ↦ absurd hfrom hno⟩
            exact ⟨1, _, data, List.mem_singleton.mp hc, ⟨rfl, rfl⟩, hfrom⟩
          · cases hno
          · exact absurd hc hno
    · obtain ⟨hnil, hn⟩ := hh.refused hc
      have hdrops : ¬ Client.Drops n u.errno ↔
          d.bytes ≠ [] ∧ (refusal tr).getD t.errno = .ewouldblock := by
        rw [hn, hh.errno]
        by_cases hbytes : d.bytes = []
        · simp [Client.Drops, hbytes]
        · simp [Client.Drops, hbytes]
      rw [hnil]
      simp only [List.not_mem_nil, false_implies, implies_true, true_and, hdrops, hc,
        not_false_eq_true]
      rw [or_iff_not_imp_left]
      refine imp_congr_right fun _ ↦ ⟨.inr, ?_⟩
      rintro (⟨hcomplete, hnone, -⟩ | h)
      · exact absurd ⟨hcomplete, hnone⟩ hc
      · exact h

/-- A client that is connected, with a callback for datagrams. -/
theorem exists_connected : ∃ (created done tr : Trace posix) (t t' : Thread UdtcpClient),
    ClientRun created done t ∧ Exec (udtcpConnectClient [] 0 0) t tr .success t' ∧
      ClientRun created (done ++ tr) ⟨.other 0, t'.self.withCallbacks false false false true⟩ := by
  obtain ⟨created, n, t, hcreate, rfl, -⟩ := may_udtcpCreateClient ⟨.other 0, .zero 0⟩
    ⟨3, by decide⟩ ⟨4, by decide⟩ ⟨5, by decide⟩
  obtain ⟨tr, result, t', hconnect, rfl, -⟩ := may_udtcpConnectClient t ⟨3, by decide⟩ 0
    length_blankRecord
  exact ⟨created, created, tr, t, t', .create hcreate, hconnect,
    ((ClientRun.create hcreate).connect hconnect).configure false false false true (.other 0)⟩

private theorem exists_reception (t : Thread UdtcpClient) (source : SockaddrIn) :
    ∃ tr n t', Exec Client.receiveUdp t tr n t' ∧
      (queueKernel t.self.clientInfos.udpServerSocket).Accepts [⟨source, [1, 0, 0, 0, 7]⟩] tr [] ∧
      refusal tr = none := by
  have hmay : May (receiveUdpWith t.self.clientInfos.udpServerSocket
      (fun _ ↦ some (Client.udpDeliver t.self)) fun _ ↦ 1) ⟨t.errno, t.self.buffer⟩ fun tr _ _ ↦
        (queueKernel t.self.clientInfos.udpServerSocket).Accepts [⟨source, [1, 0, 0, 0, 7]⟩] tr [] ∧
          refusal tr = none :=
    may_receiveUdpWith ⟨Nat.le_succ 4, Nat.le_refl 5⟩ (by simp [Datagram.Fits])
  obtain ⟨tr, n, u, hu, ha, hnone⟩ := hmay
  exact ⟨tr, n, _, Client.exec_receiveUdp.mpr ⟨u, hu, rfl⟩, ha, hnone⟩

/-- A connected client takes a datagram of its server. -/
theorem udp_true_to_source_server : ∃ (created done tr : Trace posix) (t t' : Thread UdtcpClient)
    (n : Int) (d : Datagram), ClientRun created done t ∧ Exec Client.receiveUdp t tr n t' ∧
      TrueToSource t.self.Lists d (callbacksOf tr)
        (t'.self = { t.self with buffer := t'.self.buffer } ∧ ¬ Client.Drops n t'.errno) := by
  obtain ⟨created, done, tr, t, t', -, -, hrun⟩ := exists_connected
  generalize (⟨.other 0, t'.self.withCallbacks false false false true⟩ : Thread UdtcpClient) = u
    at hrun
  obtain ⟨tr', n, u', hu, ha, -⟩ := exists_reception u u.self.serverInfos.udpClientAddr
  exact ⟨created, _, tr', u, u', n, _, hrun, hu,
    ((udp_true_to_source_iff 1).2 u u' tr' n _ [] [] (by simp [Datagram.Fits]) hu ha).mpr
      (.inl ⟨rfl, rfl⟩)⟩

/-- A datagram from another port is handed to the user as from the server. -/
theorem udp_from_stranger : ∃ (created done tr tr' : Trace posix) (t t' u' : Thread UdtcpClient)
    (n : Int) (d : Datagram), ClientRun created done t ∧
      Exec (udtcpConnectClient [] 0 0) t tr .success t' ∧
      Exec Client.receiveUdp ⟨.other 0, t'.self.withCallbacks false false false true⟩ tr' n u' ∧
      (queueKernel t'.self.clientInfos.udpServerSocket).Accepts [d] tr' [] ∧
      ¬ d.From t'.self.serverInfos ∧
      (∃ data, .receiveUdp 1 t'.self.serverInfos data ∈ callbacksOf tr') ∧
      ¬ TrueToSource t'.self.Lists d (callbacksOf tr')
        (u'.self = { t'.self.withCallbacks false false false true with buffer := u'.self.buffer } ∧
          ¬ Client.Drops n u'.errno) := by
  obtain ⟨created, done, tr, t, t', hrun, hconnect, -⟩ := exists_connected
  let r := t'.self.serverInfos
  let d : Datagram := ⟨{ r.udpClientAddr with sinPort := r.udpClientAddr.sinPort + 1 },
    [1, 0, 0, 0, 7]⟩
  have hfits : d.Fits := by simp [Datagram.Fits, d]
  have hcomplete : d.Complete := ⟨Nat.le_succ 4, Nat.le_refl 5⟩
  have hforeign : ¬ d.From r := fun hfrom ↦ by
    have hport : r.udpClientAddr.sinPort = r.udpClientAddr.sinPort + 1 := hfrom.2
    simp at hport
  obtain ⟨tr', n, u', hu, ha, hnone⟩ := exists_reception
    ⟨.other 0, t'.self.withCallbacks false false false true⟩ d.source
  obtain ⟨v, hv, -⟩ := Client.exec_receiveUdp.mp hu
  obtain ⟨-, data, hheard, -⟩ := (receiveUdpWith_handled hv ha hfits).taken hcomplete hnone _ rfl
  have hone : callbacksOf tr' = [.receiveUdp 1 r data] := hheard
  refine ⟨created, done, tr, tr', t, t', u', n, d, hrun, hconnect, hu, ha, hforeign, ⟨data, ?_⟩,
    fun htrue ↦ ?_⟩
  · rw [hone]
    exact List.mem_singleton_self _
  · obtain ⟨slot, r', data', -, ⟨-, rfl⟩, hfrom⟩ :=
      htrue.1 _ (hone ▸ List.mem_singleton_self _)
    exact hforeign hfrom

end Udtcp
