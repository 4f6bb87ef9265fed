import Udtcp.Receive.Calls
import Udtcp.Receive.Format

/-!
# A socket that datagrams come in at

The datagram socket of a server or a client while datagrams come in at any time, and what one call
of `receive_udp` (`server_poll.c:320–411`, `client_poll.c:149–243`) makes of them.
-/

namespace Udtcp

open Interaction Routine

/-- A datagram socket: what has come in, how many of these were read, and the messages handed over,
each with the record of its sender. -/
structure Mailbox where
  arrived : List Datagram
  read : Nat
  heard : List (UdtcpInfos × List UInt8)
  deriving DecidableEq

/-- The message a callback hands over, if it is one for datagrams. -/
def mailOf : Callback → Option (UdtcpInfos × List UInt8)
  | .receiveUdp _ infos data => some (infos, data)
  | _ => none

/-- Whether a datagram is heard can be checked. -/
instance (d : Datagram) : Decidable d.Taken :=
  inferInstanceAs (Decidable (4 ≤ d.bytes.length ∧ _))

namespace Mailbox

/-- What a call does to the socket `fd`. The first datagram that was not read is looked at or taken;
any reception may fail. -/
def Takes (fd : Fd) (k k' : Mailbox) : (c : Call) → c.Reply → Prop
  | .sys (.recvfrom f _ len peek), .ok r =>
    if f = fd then
      ∃ d, k.arrived[k.read]? = some d ∧ r.1.val = d.bytes.take len ∧ r.2 = d.source ∧
        k' = if peek then k else { k with read := k.read + 1 }
    else k' = k
  | .callback cb, _ => k' = { k with heard := k.heard ++ (mailOf cb).toList }
  | _, _ => k' = k

/-- The datagrams that were read and hold at least the bytes they announce, in the order in which
they came in. They need not be well-formed: what a datagram holds beyond its message is cut off. -/
def messages (k : Mailbox) : List Datagram := (k.arrived.take k.read).filter (decide ·.Taken)

/-- More datagrams came in behind the others. -/
def Grows (k k' : Mailbox) : Prop := ∃ more, k' = { k with arrived := k.arrived ++ more }

variable {k k' k'' : Mailbox}

/-- Nothing has come in. -/
theorem Grows.refl (k : Mailbox) : k.Grows k := ⟨[], by rw [List.append_nil]⟩

/-- What came in, and what came in then. -/
theorem Grows.trans (h : k.Grows k') (h' : k'.Grows k'') : k.Grows k'' := by
  obtain ⟨more, rfl⟩ := h
  obtain ⟨more', rfl⟩ := h'
  exact ⟨more ++ more', by simp only [List.append_assoc]⟩

/-- Nothing is read or handed over meanwhile. -/
theorem Grows.kept (h : k.Grows k') : k'.read = k.read ∧ k'.heard = k.heard := by
  obtain ⟨more, rfl⟩ := h
  exact ⟨rfl, rfl⟩

/-- What is there stays where it is. -/
theorem Grows.getElem? (h : k.Grows k') {i : Nat} {d : Datagram} (hd : k.arrived[i]? = some d) :
    k'.arrived[i]? = some d := by
  obtain ⟨more, rfl⟩ := h
  obtain ⟨hi, -⟩ := List.getElem?_eq_some_iff.mp hd
  exact (List.getElem?_append_left hi).trans hd

end Mailbox

/-- The surroundings of the datagram socket `fd`, with datagrams that come in before any call. -/
def mailKernel (fd : Fd) : Kernel posix Mailbox := fun k c r k' ↦
  ∃ k₁, k.Grows k₁ ∧ k₁.Takes fd k' c r

/-- A call that takes no datagram from `fd` and hands none over. -/
def NoMail (fd : Fd) (e : Event posix) : Prop :=
  ∀ k k' : Mailbox, k.Takes fd k' e.call e.reply → k' = k

section

variable {fd : Fd} {k k' : Mailbox} {tr : Trace posix}

/-- A call that is no mail lets datagrams come in only. -/
theorem NoMail.grows {c : Call} {r : c.Reply} (h : NoMail fd ⟨c, r⟩)
    (hstep : mailKernel fd k c r k') : k.Grows k' := by
  obtain ⟨k₁, hgrows, htakes⟩ := hstep
  rw [h k₁ k' htakes]
  exact hgrows

/-- So do many. -/
theorem grows_of_noMail (h : ∀ e ∈ tr, NoMail fd e) (ha : (mailKernel fd).Accepts k tr k') :
    k.Grows k' :=
  ha.invariant (I := k.Grows) (fun e he _ _ hk hstep ↦ hk.trans ((h e he).grows hstep)) (.refl k)

end

/-! ### A reception -/

/-- The messages heard of a datagram that is read. -/
def mailHeard (route : Route) (d : Datagram) : List (UdtcpInfos × List UInt8) :=
  if d.Taken then ((route d.source).join.bind fun f ↦ mailOf (f d.payload)).toList else []

/-- What a reception does: datagrams come in, and at most one is read and heard. -/
def Mailbox.Receives (route : Route) (k k' : Mailbox) : Prop :=
  k.Grows k' ∨ ∃ k₁ d, k.Grows k₁ ∧ k₁.arrived[k.read]? = some d ∧ Mailbox.Grows
    { k₁ with read := k.read + 1, heard := k.heard ++ mailHeard route d } k'

section

variable {fd : Fd} {route : Route} {success : Nat → Int} {t t' : Thread ReceiveBuffer}
  {k : Mailbox} {d : Datagram}

private theorem must_growBuffer_mail {need : Nat} (hb : t.self.Present) :
    Must (mailKernel fd) (growBuffer need) t k fun ok t' k' ↦ k.Grows k' ∧ t'.self.Present ∧
      (ok = true → 0 < need → t'.self.bufferData.isSome) := by
  intro tr ok t' k' hrun ha
  rcases exec_growBuffer.mp hrun with ⟨hle, rfl, rfl, rfl⟩ | ⟨-, e, rfl, rfl, rfl⟩ |
    ⟨-, block, rfl, rfl, rfl⟩
  · exact ⟨grows_of_noMail (List.forall_mem_nil _) ha, hb, fun _ hpos ↦ hb (by omega)⟩
  · have hquiet : NoMail fd ⟨.sys (.newBuffer (need % 2 ^ 32)), .error e⟩ := fun _ _ h ↦ h
    exact ⟨grows_of_noMail (List.forall_mem_singleton.mpr hquiet) ha, hb, nofun⟩
  · refine ⟨grows_of_noMail (fun e he ↦ ?_) ha, fun _ ↦ rfl, fun _ _ ↦ rfl⟩
    rcases List.mem_cons.mp he with rfl | he
    · exact fun k k' h ↦ h
    · obtain ⟨ptr, r, rfl⟩ := ReceiveBuffer.mem_release he
      exact fun k k' h ↦ h

private theorem bytes_fill_taken {b : ReceiveBuffer} (hb : b.bufferData.isSome) (hd : d.Taken) :
    (b.fill 0 (d.bytes.take (4 + d.size))).bytes 4 d.size = d.payload := by
  obtain ⟨blk, hblk⟩ := Option.isSome_iff_exists.mp hb
  have hread := Memory.read_write_zero blk.mem (d.bytes.take (4 + d.size)) 4 d.size (by
    rw [List.length_take]
    exact Nat.le_min.mpr ⟨Nat.le_refl _, hd.2.1⟩)
  simp only [ReceiveBuffer.fill, ReceiveBuffer.bytes, hblk, Option.map_some]
  rw [hread, Bytes.slice, List.drop_take, List.take_take, Nat.add_sub_cancel_left, Nat.min_self]
  rfl

private theorem must_takeDatagram_mail (hb : t.self.bufferData.isSome)
    (hd : k.arrived[k.read]? = some d) (hsize : d.HasSize) :
    Must (mailKernel fd) (takeDatagram fd route success d.size) t k fun _ t' k' ↦
      t'.self.bufferData.isSome ∧ k.Receives route k' := by
  intro tr n t' k' hrun ha
  obtain ⟨r, rest, rfl, hcases⟩ := exec_takeDatagram_cases hrun
  obtain ⟨k₂, ⟨k₁, hgrows, htakes⟩, ha⟩ := ha
  cases r with
  | error e =>
    obtain ⟨-, -, rfl, -, rfl⟩ | ⟨_, _, he, -⟩ := hcases
    · obtain rfl : k₂ = k₁ := htakes
      obtain rfl : k' = k₂ := ha
      exact ⟨hb, .inl hgrows⟩
    · cases he
  | ok r =>
    obtain ⟨_, he, -⟩ | ⟨bs, addr, he, rfl, hend⟩ := hcases
    · cases he
    cases he
    have htakes : if fd = fd then ∃ d, k₁.arrived[k₁.read]? = some d ∧
        bs.val = d.bytes.take (4 + _) ∧ addr = d.source ∧
          k₂ = if false then k₁ else { k₁ with read := k₁.read + 1 } else k₂ = k₁ := htakes
    rw [if_pos rfl] at htakes
    obtain ⟨d', hd', hbs, rfl, hk₂⟩ := htakes
    have hread := hgrows.kept
    rw [hread.1, hgrows.getElem? hd] at hd'
    obtain rfl := Option.some.inj hd'
    have hlen : bs.val.length = min (4 + d.size) d.bytes.length := by rw [hbs, List.length_take]
    have htaken : 0 < cInt bs.val.length ∧ (cInt bs.val.length - 4) % 2 ^ 64 = d.size ↔
        d.Taken := by
      rw [hlen, cInt_check_iff d.size_lt hsize]
      exact (and_iff_right hsize).symm
    have hfilled : (t.self.fill 0 bs.val).bufferData.isSome := by
      rw [ReceiveBuffer.fill, Option.isSome_map]
      exact hb
    have hk₂ : k₂ = { k₁ with read := k.read + 1 } := by rw [hk₂, hread.1]; rfl
    refine ⟨hfilled, .inr ⟨k₁, d, hgrows, hgrows.getElem? hd, ?_⟩⟩
    rcases hend with ⟨rfl, -, hrefused⟩ | ⟨hpos, hlength, -, deliver, hroute, hdelivery⟩
    · obtain rfl : k' = k₂ := ha
      have hnothing : mailHeard route d = [] := by
        rw [mailHeard]
        split
        · next hc =>
          obtain ⟨hpos, hlength⟩ := htaken.mpr hc
          rw [hrefused hpos hlength]
          rfl
        · rfl
      rw [hnothing, List.append_nil, hk₂, ← hread.2]
      exact .refl _
    · have hc := htaken.mp ⟨hpos, hlength⟩
      have hheard : mailHeard route d = (deliver.bind fun f ↦ mailOf (f d.payload)).toList := by
        rw [mailHeard, if_pos hc, hroute]
        rfl
      cases deliver with
      | none =>
        obtain rfl : rest = [] := hdelivery
        obtain rfl : k' = k₂ := ha
        have hnothing : mailHeard route d = [] := hheard
        rw [hnothing, List.append_nil, hk₂, ← hread.2]
        exact .refl _
      | some f =>
        obtain ⟨u, rfl⟩ := hdelivery
        obtain ⟨_, ⟨k₃, ⟨more, rfl⟩, hcalled⟩, rfl⟩ := ha
        refine ⟨more, hcalled.trans ?_⟩
        have hmessage : mailHeard route d = (mailOf (f d.payload)).toList := hheard
        rw [hmessage, hk₂, ← hread.2]
        dsimp only
        rw [hbs, bytes_fill_taken hb hc]

/-- **A reception** reads the first datagram that was not read and hands over its message, if it is
one, or leaves it where it is. -/
theorem must_receiveUdpWith_mail (hb : t.self.Present) :
    Must (mailKernel fd) (receiveUdpWith fd route success) t k fun _ t' k' ↦
      t'.self.Present ∧ k.Receives route k' := by
  unfold receiveUdpWith
  refine must_syscall_bind fun r k₁ hstep ↦ ?_
  cases r with
  | error e =>
    have hquiet : NoMail fd ⟨.sys (.recvfrom fd .word 4 true), .error e⟩ := fun _ _ h ↦ h
    exact must_pure ⟨hb, .inl (hquiet.grows hstep)⟩
  | ok r =>
    obtain ⟨k₀, hgrows, htakes⟩ := hstep
    have htakes : if fd = fd then ∃ d, k₀.arrived[k₀.read]? = some d ∧
        r.1.val = d.bytes.take 4 ∧ r.2 = d.source ∧
          k₁ = if true then k₀ else { k₀ with read := k₀.read + 1 } else k₁ = k₀ := htakes
    rw [if_pos rfl, if_pos rfl] at htakes
    obtain ⟨d, hd, hsize, -, rfl⟩ := htakes
    refine must_ite (fun _ ↦ must_pure ⟨hb, .inl hgrows⟩) fun _ ↦
      must_ite (fun _ ↦ must_pure ⟨hb, .inl hgrows⟩) fun hfour ↦ ?_
    have hsizeOf : Bytes.leNat r.1.val = d.size := by rw [hsize, Datagram.size]
    have hhas : d.HasSize := by
      have hlen : (d.bytes.take 4).length = 4 := hsize ▸ not_not.mp hfour
      rw [List.length_take] at hlen
      rw [Datagram.HasSize]
      omega
    dsimp only
    rw [hsizeOf]
    refine must_bind ((must_growBuffer_mail hb).mono ?_)
    rintro ok t₂ k₂ ⟨hmore, hpresent, hroom⟩
    refine must_ite (fun hok ↦ ?_) fun _ ↦ must_pure ⟨hpresent, .inl (hgrows.trans hmore)⟩
    have hread := (hgrows.trans hmore).kept
    have hfirst : k₂.arrived[k₂.read]? = some d := by
      rw [hmore.kept.1]
      exact hmore.getElem? hd
    refine (must_takeDatagram_mail (hroom hok (by omega)) hfirst hhas).mono ?_
    rintro _ t₃ k₃ ⟨hdata, hreceived⟩
    refine ⟨fun _ ↦ hdata, ?_⟩
    obtain hmore' | ⟨k₄, d', hmore', hd', hend⟩ := hreceived
    · exact .inl ((hgrows.trans hmore).trans hmore')
    · rw [hread.1, hread.2] at hend
      exact .inr ⟨k₄, d', (hgrows.trans hmore).trans hmore', hread.1 ▸ hd', hend⟩

end

end Udtcp
