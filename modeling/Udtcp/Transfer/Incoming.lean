import Udtcp.Receive.Reassembly
import Udtcp.Transfer.RoundTrip

/-!
# A connection that brings messages

The receiving end of a TCP connection while its bytes come in as they like, and what one call of
`receive_tcp` (`server_poll.c:197–299`, `client_poll.c:34–147`) makes of them.
-/

namespace Udtcp

open Interaction Routine

/-- A connection at its receiving end: whether it is open, the bytes that were sent and are still to
be read, and the messages handed over. -/
structure Incoming where
  isOpen : Bool
  pending : List UInt8
  delivered : List (List UInt8)
  deriving DecidableEq

namespace Incoming

/-- What a call does to the open connection `fd`. Bytes are read in order, as many at a time as the
surroundings like. A size is read whole and with something of its message there: behind it neither a
reception nor a wait nor an allocation fails with `EWOULDBLOCK`, and no wait without a timeout ends
with nothing. A descriptor in use is not given out again. -/
def Takes (fd : Fd) (k k' : Incoming) : (c : Call) → c.Reply → Prop
  | .sys (.recv f target _), .ok bs =>
    if f = fd then
      (target = .word → bs.val.length = 0 ∨ bs.val.length = 4) ∧
        ∃ rest, k.pending = bs.val ++ rest ∧ k' = { k with pending := rest }
    else k' = k
  | .sys (.recv f target _), .error e => (f = fd → target ≠ .word → e ≠ .ewouldblock) ∧ k' = k
  | .sys (.newBuffer _), .error e => e ≠ .ewouldblock ∧ k' = k
  | .sys (.poll _ timeout), .error e => (timeout = -1 → e ≠ .ewouldblock) ∧ k' = k
  | .sys (.poll fds timeout), .ok revents =>
    (timeout = -1 →
      pollCount (.ok revents : Except Errno (SysCall.poll fds timeout).Result) ≠ 0) ∧ k' = k
  | .sys (.accept _), .ok peer => peer.1.val ≠ fd ∧ k' = k
  | .sys (.close f), _ => k' = if f = fd then { k with isOpen := false } else k
  | .callback (.receiveTcp _ infos data), _ =>
    k' = if infos.tcpSocket = fd then { k with delivered := k.delivered ++ [data] } else k
  | _, _ => k' = k

/-- What was handed over are the first messages that were sent, and what is to be read of an open
connection are the frames of the others. -/
structure Orderly (messages : List (List UInt8)) (k : Incoming) : Prop where
  delivered : k.delivered <+: messages
  pending : k.isOpen = true → ∃ rest, messages = k.delivered ++ rest ∧ k.pending = Bytes.frames rest

end Incoming

/-- The surroundings of the receiving end of connection `fd`; nothing is asked of them once it is
closed. -/
def incomingKernel (fd : Fd) : Kernel posix Incoming := fun k c r k' ↦
  if k.isOpen = true then k.Takes fd k' c r else k' = k

section

variable {fd : Fd} {messages rest : List (List UInt8)} {message : List UInt8} {k k' : Incoming}
  {tr : Trace posix}

/-- A call on an open connection. -/
theorem incomingKernel_open {c : Call} {r : c.Reply} (hopen : k.isOpen = true) :
    incomingKernel fd k c r k' ↔ k.Takes fd k' c r := by
  rw [incomingKernel, if_pos hopen]

/-- Nothing happens on a closed connection any more. -/
theorem accepts_incomingKernel_closed (hclosed : ¬ k.isOpen = true)
    (h : (incomingKernel fd).Accepts k tr k') : k' = k := by
  refine h.invariant (I := (· = k)) (fun e _ k₁ k₂ hk₁ hstep ↦ ?_) rfl
  rw [hk₁, incomingKernel, if_neg hclosed] at hstep
  exact hstep

/-- A call that reads nothing from `fd` and hands no message of it over. -/
def Spares (fd : Fd) (e : Event posix) : Prop :=
  ∀ k k' : Incoming, k.Takes fd k' e.call e.reply → k' = k ∨ k' = { k with isOpen := false }

/-- A closed connection is in order with what was delivered. -/
theorem Incoming.Orderly.of_closed (hclosed : k.isOpen = false) (h : k.delivered <+: messages) :
    k.Orderly messages :=
  ⟨h, fun hopen ↦ absurd hopen (by rw [hclosed]; nofun)⟩

/-- Calls that leave the connection alone keep it in order. -/
theorem Incoming.Orderly.spared (hk : k.Orderly messages) (hspares : ∀ e ∈ tr, Spares fd e)
    (h : (incomingKernel fd).Accepts k tr k') : k'.Orderly messages := by
  refine h.invariant (I := (·.Orderly messages)) (fun e he k₁ k₂ hk₁ hstep ↦ ?_) hk
  by_cases hopen : k₁.isOpen = true
  · obtain rfl | rfl := hspares e he k₁ k₂ ((incomingKernel_open hopen).mp hstep)
    · exact hk₁
    · exact .of_closed rfl hk₁.delivered
  · rw [incomingKernel, if_neg hopen] at hstep
    exact hstep ▸ hk₁

-- A connection in the middle of a message, of which `o` bytes were read.
private structure Within (messages : List (List UInt8)) (message : List UInt8)
    (rest : List (List UInt8)) (o : Nat) (k : Incoming) : Prop where
  isOpen : k.isOpen = true
  messages : messages = k.delivered ++ message :: rest
  pending : k.pending = message.drop o ++ Bytes.frames rest

-- What a reception leaves behind: all is in order where the poll loops keep the connection.
private structure Concluded (messages : List (List UInt8)) (n : Int) (t : Thread ReceiveBuffer)
    (k : Incoming) : Prop where
  present : t.self.Present
  isOpen : k.isOpen = true
  delivered : k.delivered <+: messages
  orderly : 0 < n ∨ n < 0 ∧ t.errno = .ewouldblock → k.Orderly messages

private theorem Within.delivered_isPrefix {o : Nat} (h : Within messages message rest o k) :
    k.delivered <+: messages := ⟨_, h.messages.symm⟩

private theorem Within.received {o : Nat} {n : Int} {t : Thread ReceiveBuffer}
    (h : Within messages message rest o k) (hb : t.self.Present) (hn : n ≤ 0)
    (he : n < 0 → t.errno ≠ .ewouldblock) : Concluded messages n t k :=
  ⟨hb, h.isOpen, h.delivered_isPrefix, fun hkept ↦ by
    obtain hpos | ⟨hneg, hagain⟩ := hkept
    · omega
    · exact absurd hagain (he hneg)⟩

private theorem must_recvBuffer_within {o : Nat} {t : Thread ReceiveBuffer}
    (h : Within messages message rest o k) (ho : o ≤ message.length) :
    Must (incomingKernel fd) (recvBuffer fd o (message.length - o)) t k fun n t' k' ↦
      (n = -1 ∧ t'.self = t.self ∧ t'.errno ≠ .ewouldblock ∧ k' = k) ∨
      ∃ bs, n = (bs.length : Int) ∧ t' = { t with self := t.self.fill o bs } ∧
        o + bs.length ≤ message.length ∧ message.take (o + bs.length) = message.take o ++ bs ∧
        Within messages message rest (o + bs.length) k' := by
  unfold recvBuffer
  refine must_self_bind (must_syscall_bind fun r k₁ hk ↦ ?_)
  rw [incomingKernel_open h.isOpen] at hk
  cases r with
  | error e =>
    obtain ⟨hagain, rfl⟩ := hk
    exact must_pure (.inl ⟨rfl, rfl, hagain rfl nofun, rfl⟩)
  | ok bs =>
    have hk : if fd = fd then (t.self.target o = .word → bs.val.length = 0 ∨ bs.val.length = 4) ∧
        ∃ rest, k.pending = bs.val ++ rest ∧ k₁ = { k with pending := rest } else k₁ = k := hk
    rw [if_pos rfl] at hk
    obtain ⟨-, left, hleft, rfl⟩ := hk
    have hbs := bs.property
    have hsplit := h.pending.symm.trans hleft
    have hprefix : bs.val <+: message.drop o := by
      refine List.prefix_of_prefix_length_le ⟨left, hsplit.symm⟩ ⟨_, rfl⟩ ?_
      rw [List.length_drop]
      exact hbs
    obtain ⟨tail, htail⟩ := hprefix
    have htake : message.take (o + bs.val.length) = message.take o ++ bs.val := by
      rw [List.take_add, ← htail, List.take_left]
    have hdrop : message.drop (o + bs.val.length) = tail := by
      rw [← List.drop_drop, ← htail, List.drop_left]
    rw [← htail, List.append_assoc] at hsplit
    refine must_update_bind (must_pure (.inr ⟨bs.val, rfl, rfl, by omega, htake,
      h.isOpen, h.messages, ?_⟩))
    rw [hdrop]
    exact (List.append_cancel_left hsplit).symm

private theorem must_pollIn_within {o : Nat} {t : Thread ReceiveBuffer}
    (h : Within messages message rest o k) :
    Must (incomingKernel fd) (pollIn fd) t k fun n t' k' ↦
      t'.self = t.self ∧ k' = k ∧ (n ≤ 0 → t'.errno ≠ .ewouldblock) := by
  unfold pollIn
  refine must_syscall_bind fun reply k₁ hk ↦ ?_
  rw [incomingKernel_open h.isOpen] at hk
  cases reply with
  | error e =>
    obtain ⟨hagain, rfl⟩ := hk
    exact must_pure ⟨rfl, rfl, fun _ ↦ hagain rfl⟩
  | ok revents =>
    obtain ⟨hsome, rfl⟩ := hk
    refine must_pure ⟨rfl, rfl, fun hnone ↦ ?_⟩
    have hcount : 0 ≤ pollCount (.ok revents) := Int.natCast_nonneg _
    exact absurd (by omega) (hsome rfl)

private theorem must_reassemble_within {rounds o : Nat} {t : Thread ReceiveBuffer}
    (h : Within messages message rest o k) (ho : o ≤ message.length)
    (hrounds : message.length ≤ o + rounds) (hpresent : t.self.bufferData.isSome)
    (hread : t.self.bytes 0 o = message.take o) :
    Must (incomingKernel fd) (reassemble fd message.length rounds o) t k fun r t' k' ↦
      match r with
      | none => t'.self.bufferData.isSome ∧ t'.self.bytes 0 message.length = message ∧
          Within messages message rest message.length k'
      | some n => Concluded messages n t' k' := by
  induction rounds generalizing t k o with
  | zero =>
    obtain rfl : o = message.length := by omega
    exact must_pure ⟨hpresent, by rw [hread, List.take_length], h⟩
  | succ rounds ih =>
    unfold reassemble
    refine must_ite (fun hdone ↦ ?_) fun hmissing ↦ ?_
    · subst hdone
      exact must_pure ⟨hpresent, by rw [hread, List.take_length], h⟩
    refine must_bind ((must_pollIn_within h).mono ?_)
    rintro n t₁ k₁ ⟨hself, rfl, hidle⟩
    rw [← hself] at hpresent hread
    have hheld : t₁.self.Present := fun _ ↦ hpresent
    refine must_ite (fun hnone ↦ must_pure (h.received hheld (by omega) fun _ ↦ hidle hnone)) ?_
    refine fun _ ↦ must_bind ((must_recvBuffer_within h ho).mono ?_)
    rintro n t₂ k₂ (⟨rfl, hself₂, hagain, rfl⟩ | ⟨bs, rfl, rfl, hle, htake, hwithin⟩)
    · refine must_ite (fun _ ↦ must_pure (h.received ?_ (by omega) fun _ ↦ hagain))
        (absurd (by omega))
      rw [hself₂]
      exact hheld
    have hpresent₂ : (t₁.self.fill o bs).bufferData.isSome := by
      rw [ReceiveBuffer.fill, Option.isSome_map]
      exact hpresent
    refine must_ite (fun hneg ↦ absurd hneg (by omega)) fun _ ↦ must_ite (fun _ ↦ ?_) fun _ ↦ ?_
    · exact must_pure (hwithin.received (fun _ ↦ hpresent₂) (Int.le_refl 0) fun hneg ↦ by omega)
    · rw [Int.toNat_natCast]
      refine ih hwithin hle (by omega) hpresent₂ ?_
      rw [ReceiveBuffer.bytes_fill_append hpresent, hread, htake]

private theorem must_growBuffer_within {need : Nat} {t : Thread ReceiveBuffer}
    (hopen : k.isOpen = true) (hb : t.self.Present) :
    Must (incomingKernel fd) (growBuffer need) t k fun ok t' k' ↦ k' = k ∧ t'.self.Present ∧
      (ok = true → 0 < need → t'.self.bufferData.isSome) ∧
      (ok = false → t'.errno ≠ .ewouldblock) := by
  intro tr ok t' k' hrun ha
  rcases exec_growBuffer.mp hrun with ⟨hle, rfl, rfl, rfl⟩ | ⟨-, e, rfl, rfl, rfl⟩ |
    ⟨-, block, rfl, rfl, rfl⟩
  · exact ⟨ha, hb, fun _ hpos ↦ hb (by omega), nofun⟩
  · obtain ⟨k₁, hk, rfl⟩ := ha
    obtain ⟨hagain, rfl⟩ := (incomingKernel_open hopen).mp hk
    exact ⟨rfl, hb, nofun, fun _ ↦ hagain⟩
  · refine ⟨?_, fun _ ↦ rfl, fun _ _ ↦ rfl, nofun⟩
    refine ha.invariant (I := (· = k)) (fun e he k₁ k₂ hk₁ hstep ↦ ?_) rfl
    rw [hk₁, incomingKernel_open hopen] at hstep
    rcases List.mem_cons.mp he with rfl | he
    · exact hstep
    · obtain ⟨ptr, r, rfl⟩ := ReceiveBuffer.mem_release he
      exact hstep

section

variable {deliver : List UInt8 → Callback} {success : Nat → Int}

private theorem must_receivePayload_within {t : Thread ReceiveBuffer}
    (hdeliver : ∀ data, ∃ slot infos, deliver data = .receiveTcp slot infos data ∧
      infos.tcpSocket = fd)
    (h : Within messages message rest 0 k) (hb : t.self.Present)
    (hroom : 0 < message.length → t.self.bufferData.isSome) :
    Must (incomingKernel fd) (receivePayload fd (some deliver) success message.length) t k
      fun n t' k' ↦ Concluded messages n t' k' := by
  unfold receivePayload
  refine must_bind ((must_recvBuffer_within h (Nat.zero_le _)).mono ?_)
  rintro n t₁ k₁ (⟨rfl, hself, hagain, rfl⟩ | ⟨bs, rfl, rfl, hle, htake, hwithin⟩)
  · refine must_ite (fun _ ↦ must_pure (h.received ?_ (by omega) fun _ ↦ hagain))
      (absurd (by omega))
    rw [hself]
    exact hb
  have hb₁ := (ReceiveBuffer.sameBlock_fill t.self 0 bs).present.mpr hb
  rw [Nat.zero_add] at hle htake hwithin
  refine must_ite (fun hneg ↦ absurd hneg (by omega)) fun _ ↦ must_ite (fun _ ↦ ?_) fun hsome ↦ ?_
  · exact must_pure (hwithin.received hb₁ (Int.le_refl 0) fun hneg ↦ by omega)
  have hpresent := hroom (by omega)
  have hpresent₁ : (t.self.fill 0 bs).bufferData.isSome := by
    rw [ReceiveBuffer.fill, Option.isSome_map]
    exact hpresent
  rw [Int.toNat_natCast]
  have hread : (t.self.fill 0 bs).bytes 0 bs.length = message.take bs.length := by
    rw [ReceiveBuffer.bytes_fill hpresent, htake, List.take_zero, List.nil_append]
  refine must_bind ((must_reassemble_within hwithin hle (Nat.le_add_left _ _) hpresent₁
    hread).mono ?_)
  intro r t₂ k₂ hr
  cases r with
  | some n => exact must_pure hr
  | none =>
    obtain ⟨hpresent₂, hwhole, hdone⟩ := hr
    refine must_self_bind (must_issue_bind fun _ k₃ hk ↦ must_pure ?_)
    obtain ⟨slot, infos, heq, hinfos⟩ := hdeliver message
    rw [incomingKernel_open hdone.isOpen, hwhole, heq] at hk
    have hk : k₃ = if infos.tcpSocket = fd then { k₂ with delivered := k₂.delivered ++ [message] }
        else k₂ := hk
    rw [if_pos hinfos] at hk
    subst hk
    have hmessages : messages = (k₂.delivered ++ [message]) ++ rest := by
      rw [hdone.messages, List.append_assoc]
      rfl
    refine ⟨fun _ ↦ hpresent₂, hdone.isOpen, ⟨rest, hmessages.symm⟩, fun _ ↦
      ⟨⟨rest, hmessages.symm⟩, fun _ ↦ ⟨rest, hmessages, ?_⟩⟩⟩
    have hpending := hdone.pending
    rw [List.drop_length] at hpending
    exact hpending

/-- **A reception** takes the next message of the connection and hands it over, or breaks off in a
way that ends the connection, or leaves everything as it was. -/
theorem must_receiveTcpWith_incoming {t : Thread ReceiveBuffer}
    (hdeliver : ∀ data, ∃ slot infos, deliver data = .receiveTcp slot infos data ∧
      infos.tcpSocket = fd)
    (hmessages : ∀ m ∈ messages, Bytes.Framable m) (hb : t.self.Present) (hopen : k.isOpen = true)
    (hk : k.Orderly messages) :
    Must (incomingKernel fd) (receiveTcpWith fd (some deliver) success) t k fun n t' k' ↦
      t'.self.Present ∧ k'.isOpen = true ∧ k'.delivered <+: messages ∧
        (0 < n ∨ n < 0 ∧ t'.errno = .ewouldblock → k'.Orderly messages) := by
  have hsame (n : Int) (t' : Thread ReceiveBuffer) (hself : t'.self = t.self) :
      t'.self.Present ∧ k.isOpen = true ∧ k.delivered <+: messages ∧
        (0 < n ∨ n < 0 ∧ t'.errno = .ewouldblock → k.Orderly messages) :=
    ⟨hself ▸ hb, hopen, hk.delivered, fun _ ↦ hk⟩
  unfold receiveTcpWith
  refine must_syscall_bind fun r k₁ hstep ↦ ?_
  rw [incomingKernel_open hopen] at hstep
  cases r with
  | error e =>
    obtain ⟨-, rfl⟩ := hstep
    exact must_pure (hsame _ _ rfl)
  | ok size =>
    have hstep : if fd = fd then (Target.word = .word → size.val.length = 0 ∨ size.val.length = 4) ∧
        ∃ rest, k.pending = size.val ++ rest ∧ k₁ = { k with pending := rest } else k₁ = k := hstep
    rw [if_pos rfl] at hstep
    obtain ⟨hwhole, left, hleft, rfl⟩ := hstep
    refine must_ite (fun hnone ↦ must_pure ?_) fun hsome ↦ must_ite (fun hpart ↦ ?_) fun _ ↦ ?_
    · have hnil := List.eq_nil_of_length_eq_zero hnone
      rw [hnil, List.nil_append] at hleft
      rw [← hleft]
      exact hsame _ _ rfl
    · exact absurd (hwhole rfl) (by omega)
    have hfour : size.val.length = 4 := by
      have := hwhole rfl
      omega
    obtain ⟨rest, hrest, hframes⟩ := hk.pending hopen
    cases rest with
    | nil =>
      rw [hframes, Bytes.frames_nil] at hleft
      have hlen := congrArg List.length hleft
      rw [List.length_append, hfour, List.length_nil] at hlen
      omega
    | cons message rest =>
      have hframable := hmessages message (by rw [hrest]; simp)
      rw [hframes, Bytes.frames_cons, Bytes.frame, List.append_assoc] at hleft
      obtain ⟨hsize, hpending⟩ := List.append_inj hleft (by rw [Bytes.length_leBytes, hfour])
      have hn : Bytes.leNat size.val = message.length := by
        rw [← hsize]
        exact Bytes.leNat_leBytes_of_lt hframable
      rw [hn]
      have hwithin : Within messages message rest 0 { k with pending := left } :=
        ⟨hopen, hrest, hpending.symm⟩
      refine must_bind ((must_growBuffer_within (k := { k with pending := left }) hopen hb).mono ?_)
      rintro ok t₁ k₂ ⟨rfl, hb₁, hroom, hfail⟩
      refine must_ite (fun hok ↦ ?_) fun hok ↦ ?_
      · refine (must_receivePayload_within hdeliver hwithin hb₁ (hroom hok)).mono ?_
        exact fun n t' k' hr ↦ ⟨hr.present, hr.isOpen, hr.delivered, hr.orderly⟩
      · have hr : Concluded messages (-1) t₁ { k with pending := left } :=
          hwithin.received hb₁ (by omega) fun _ ↦ hfail (by simpa using hok)
        exact must_pure ⟨hr.present, hr.isOpen, hr.delivered, hr.orderly⟩

end

end

end Udtcp
