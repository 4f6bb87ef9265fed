import Udtcp.Table.Filter
import Udtcp.Table.Senders
import Udtcp.Transfer.Mailbox
import Udtcp.Transfer.Passes

/-!
# Datagrams are heard in order

Passes of a client (`client_poll.c:272–360`) and of a server (`server_poll.c:440–538`) while
datagrams come in at their datagram socket, in whatever order and from whatever source.
-/

namespace Udtcp

open Interaction Routine

namespace Mailbox

variable {k k' : Mailbox} {route : Route}

private theorem Grows.read_le (h : k.Grows k') (hread : k.read ≤ k.arrived.length) :
    k'.read ≤ k'.arrived.length := by
  obtain ⟨more, rfl⟩ := h
  dsimp only
  rw [List.length_append]
  exact Nat.le_add_right_of_le hread

/-- Datagrams that come in are not read yet. -/
theorem Grows.messages (h : k.Grows k') (hread : k.read ≤ k.arrived.length) :
    k'.messages = k.messages := by
  obtain ⟨more, rfl⟩ := h
  rw [Mailbox.messages, Mailbox.messages, List.take_append_of_le_length hread]

/-- One more datagram is read. -/
theorem messages_read {d : Datagram} (hd : k.arrived[k.read]? = some d)
    (heard : List (UdtcpInfos × List UInt8)) :
    Mailbox.messages { k with read := k.read + 1, heard := heard } =
      k.messages ++ if d.Taken then [d] else [] := by
  rw [Mailbox.messages, Mailbox.messages]
  dsimp only
  rw [List.take_add_one, hd, List.filter_append]
  by_cases hc : d.Taken <;> simp [hc]

/-- What a reception does to the messages and to what was heard. -/
theorem Receives.messages (h : k.Receives route k') (hread : k.read ≤ k.arrived.length) :
    k'.read ≤ k'.arrived.length ∧ (k'.heard = k.heard ∧ k'.messages = k.messages ∨
      ∃ d, k'.heard = k.heard ++ mailHeard route d ∧
        k'.messages = k.messages ++ if d.Taken then [d] else []) := by
  obtain hgrows | ⟨k₁, d, hgrows, hd, hend⟩ := h
  · exact ⟨hgrows.read_le hread, .inl ⟨hgrows.kept.2, hgrows.messages hread⟩⟩
  · obtain ⟨hlt, -⟩ := List.getElem?_eq_some_iff.mp hd
    rw [← hgrows.kept.1] at hd hend
    have hone := messages_read hd (k.heard ++ mailHeard route d)
    rw [hgrows.messages hread] at hone
    have hle : k₁.read + 1 ≤ k₁.arrived.length := hgrows.kept.1 ▸ hlt
    exact ⟨hend.read_le hle, .inr ⟨d, hend.kept.2, (hend.messages hle).trans hone⟩⟩

end Mailbox

/-! ### Calls that are not about datagrams -/

section

variable {fd : Fd}

private theorem noMail_callback {cb : Callback} (h : mailOf cb = none) (u : Unit) :
    NoMail fd ⟨.callback cb, u⟩ := by
  intro k k' htakes
  have htakes : k' = { k with heard := k.heard ++ (mailOf cb).toList } := htakes
  rw [htakes, h]
  simp

private theorem streamCalls_noMail (other : Fd) : StreamCalls (NoMail fd) other where
  newBuffer _ r _ _ h := by cases r <;> exact h
  freeBuffer _ _ _ _ h := h
  poll r _ _ h := by cases r <;> exact h
  recvWord r _ _ h := by cases r <;> exact h
  recvBuffer _ _ _ _ r _ _ h := by cases r <;> exact h

private theorem acceptCalls_noMail : AcceptCalls (NoMail fd) where
  sys c r hc k k' h := by
    cases c
    case recvfrom => cases hc
    all_goals cases r <;> exact h
  lookup _ _ _ _ h := h
  load _ _ _ _ h := h
  store _ _ _ _ _ h := h
  announce _ _ _ := noMail_callback rfl _

end

/-! ### Surroundings that can be followed -/

/-- Surroundings in which `letters` come in at socket `fd` with every poll, and entry `slot` alone
is ready. -/
def letterbox (fd : Fd) (slot : Nat) (letters : List Datagram) : Handler posix Mailbox := fun k c ↦
  match c with
  | .sys (.poll _ _) =>
    some (.ok (Vector.ofFn fun i ↦ onlyReady slot i), { k with arrived := k.arrived ++ letters })
  | .sys (.recvfrom f _ len peek) =>
    match k.arrived[k.read]? with
    | some d =>
      if f = fd then
        some (.ok (⟨d.bytes.take len, List.length_take_le _ _⟩, d.source),
          if peek then k else { k with read := k.read + 1 })
      else
        none
    | none => some (.error .ewouldblock, k)
  | .sys (.newBuffer size) => some (.ok (Block.fresh 1 size), k)
  | .freeBuffer _ => some ((), k)
  | .pollLoop => some (true, k)
  | .callback cb => some ((), { k with heard := k.heard ++ (mailOf cb).toList })
  | _ => none

/-- They are surroundings of that socket. -/
theorem kernel_letterbox {fd : Fd} {slot : Nat} {letters : List Datagram} {k k' : Mailbox}
    {c : Call} {r : c.Reply} (h : (letterbox fd slot letters).kernel k c r k') :
    mailKernel fd k c r k' := by
  have h : letterbox fd slot letters k c = some (r, k') := h
  unfold letterbox at h
  split at h
  · cases h
    exact ⟨_, ⟨letters, rfl⟩, rfl⟩
  · next f target len peek h =>
    split at h
    · next d hd =>
      split at h
      · next hf =>
        cases h
        refine ⟨k, .refl k, ?_⟩
        show if f = fd then _ else _
        rw [if_pos hf]
        exact ⟨d, hd, rfl, rfl, rfl⟩
      · cases h
    · cases h
      exact ⟨k, .refl k, rfl⟩
  · cases h
    exact ⟨k, .refl k, rfl⟩
  · cases h
    exact ⟨k, .refl k, rfl⟩
  · cases h
    exact ⟨k, .refl k, rfl⟩
  · cases h
    exact ⟨k, .refl k, rfl⟩
  · cases h

/-! ### A client -/

namespace Client

variable {fd : Fd} {t t' : Thread UdtcpClient} {k k' : Mailbox} {tr : Trace posix}

/-- A client on the datagram socket `fd` that hands all messages over. -/
structure Hears (fd : Fd) (t : Thread UdtcpClient) (k : Mailbox) : Prop where
  present : t.self.buffer.Present
  callback : t.self.receiveUdpCallback = true
  socket : t.self.clientInfos.udpServerSocket = fd
  read : k.read ≤ k.arrived.length
  heard : k.heard.map Prod.snd = k.messages.map Datagram.payload

private theorem Hears.quiet (h : Hears fd t k) (hgrows : k.Grows k')
    (hbuffer : t'.self.buffer.Present)
    (hcallback : t'.self.receiveUdpCallback = t.self.receiveUdpCallback)
    (hsocket : t'.self.clientInfos.udpServerSocket = t.self.clientInfos.udpServerSocket) :
    Hears fd t' k' := by
  refine ⟨hbuffer, hcallback.trans h.callback, hsocket.trans h.socket, hgrows.read_le h.read, ?_⟩
  rw [hgrows.kept.2, hgrows.messages h.read]
  exact h.heard

private theorem must_receiveUdp_hears (h : Hears fd t k) :
    Must (mailKernel fd) receiveUdp t k fun _ t' k' ↦ Hears fd t' k' := by
  unfold receiveUdp
  refine must_self_bind (must_onPart ?_)
  rw [h.socket]
  refine (must_receiveUdpWith_mail h.present).mono fun n u k' ⟨hpresent, hreceived⟩ ↦ ?_
  obtain ⟨hread, hend⟩ := hreceived.messages h.read
  refine ⟨hpresent, h.callback, h.socket, hread, ?_⟩
  rcases hend with ⟨hheard, hmessages⟩ | ⟨d, hheard, hmessages⟩
  · rw [hheard, hmessages]
    exact h.heard
  · rw [hheard, hmessages, List.map_append, List.map_append, h.heard, mailHeard, if_pos h.callback]
    congr 1
    split <;> rfl

private theorem must_receiveTcp_hears (h : Hears fd t k) :
    Must (mailKernel fd) receiveTcp t k fun _ t' k' ↦ Hears fd t' k' := by
  intro tr n t' k' hrun ha
  have hpresent := (BufferStep.clientTcp hrun).present h.present
  obtain ⟨u, hu, rfl⟩ := exec_receiveTcp.mp hrun
  refine h.quiet (grows_of_noMail (emits_receiveTcpWith_stream (streamCalls_noMail _) ?_ _ _ _ _ _
    hu) ha) hpresent rfl rfl
  intro f hf data v
  unfold tcpDeliver at hf
  split at hf
  · cases hf
    exact noMail_callback rfl v
  · cases hf

private theorem maintains_disconnect_hears : Maintains (mailKernel fd) (Hears fd) disconnect := by
  unfold disconnect
  have hsys (c : SysCall) (hc : ∀ r, NoMail fd ⟨.sys c, r⟩) :
      Maintains (mailKernel fd) (Hears fd) (syscall c) := by
    refine maintains_syscall fun t k r k' h hstep ↦ ?_
    have hself := t.note_self r
    exact h.quiet ((hc r).grows hstep) (hself ▸ h.present) (by rw [hself]) (by rw [hself])
  refine maintains_self.bind fun c ↦ (hsys _ fun r _ _ h ↦ by cases r <;> exact h).bind fun _ ↦ ?_
  refine maintains_self.bind fun c ↦ (hsys _ fun r _ _ h ↦ by cases r <;> exact h).bind fun _ ↦ ?_
  refine Maintains.bind (maintains_update fun t k h ↦
    ⟨h.present, h.callback, h.socket, h.read, h.heard⟩) fun _ ↦ ?_
  refine maintains_self.bind fun c ↦
    .ite (maintains_issue fun t k u k' h hstep ↦ ?_) (maintains_pure _)
  exact h.quiet ((noMail_callback rfl u).grows hstep) h.present rfl rfl

private theorem maintains_serveSocket_hears {receive : ClientProc Int} {fuel : Nat}
    (hreceive : ∀ t k, Hears fd t k → Must (mailKernel fd) receive t k fun _ t' k' ↦
      Hears fd t' k') : Maintains (mailKernel fd) (Hears fd) (serveSocket fuel receive) := by
  have hleave : Maintains (mailKernel fd) (Hears fd) (do
      disconnect
      return some UdtcpPoll.error) := maintains_disconnect_hears.bind fun _ ↦ maintains_pure _
  intro t k h
  unfold serveSocket
  refine must_bind ((must_drain (I := fun _ t k ↦ Hears fd t k) (fun _ t k on k' h hstep ↦ ?_)
    (hreceive t k h) fun _ t k h _ ↦ hreceive t k h).mono fun n t₁ k₁ h₁ ↦ ?_)
  · have hquiet : NoMail fd ⟨.pollLoop, on⟩ := fun _ _ h ↦ h
    exact h.quiet (hquiet.grows hstep) h.present rfl rfl
  · refine must_ite (fun _ ↦ must_errno_bind ?_) fun _ ↦ ?_
    · exact must_ite (fun _ ↦ hleave t₁ k₁ h₁) fun _ ↦ must_pure h₁
    · exact must_ite (fun _ ↦ hleave t₁ k₁ h₁) fun _ ↦ must_pure h₁

private theorem servingRules_hears : ServingRules (mailKernel fd) (Hears fd) where
  poll fds timeout t k r k' h hstep := by
    have hquiet : NoMail fd ⟨.sys (.poll fds timeout), r⟩ := fun _ _ h ↦ by cases r <;> exact h
    have hself := t.note_self r
    exact h.quiet (hquiet.grows hstep) (hself ▸ h.present) (by rw [hself]) (by rw [hself])
  revents t k revents h := ⟨h.present, h.callback, h.socket, h.read, h.heard⟩
  flag t k r k' h hstep := by
    have hquiet : NoMail fd ⟨.pollLoop, r⟩ := fun _ _ h ↦ h
    exact h.quiet (hquiet.grows hstep) h.present rfl rfl
  serveTcp _ := maintains_serveSocket_hears fun _ _ ↦ must_receiveTcp_hears
  serveUdp _ := maintains_serveSocket_hears fun _ _ ↦ must_receiveUdp_hears

end Client

/-- **A client hears its datagrams in order.** However many passes it makes and whatever comes in
meanwhile, the messages handed over are those of the datagrams that were read and hold at least the
bytes they announce, each once and in the order in which they came in, and nothing else. -/
theorem client_datagrams_in_order {t t' : Thread UdtcpClient} {k' : Mailbox}
    (hbuffer : t.self.buffer.Present) (hcallback : t.self.receiveUdpCallback = true)
    (h : Repeats (mailKernel t.self.clientInfos.udpServerSocket) ClientPass t ⟨[], 0, []⟩ t' k') :
    k'.heard.map Prod.snd = k'.messages.map Datagram.payload := by
  have hstart : Client.Hears t.self.clientInfos.udpServerSocket t ⟨[], 0, []⟩ :=
    ⟨hbuffer, hcallback, rfl, Nat.le_refl 0, rfl⟩
  refine Client.Hears.heard (h.invariant (I := Client.Hears _) ?_ hstart)
  rintro p ⟨fuel, timeout, rfl⟩
  exact Client.servingRules_hears.maintains_udtcpClientPoll fuel timeout

/-- A client with its datagram socket on `7`. -/
def datagramClient : Thread UdtcpClient :=
  ⟨.other 0, { hearingClient.self with
    clientInfos := { UdtcpInfos.zero with tcpSocket := -1, udpServerSocket := 7 }
    receiveUdpCallback := true }⟩

/-- Two messages from two sources, which the client hears in one pass. -/
theorem client_datagrams_in_order_two : ∃ t' k', Repeats (mailKernel 7) ClientPass datagramClient
    ⟨[], 0, []⟩ t' k' ∧ k'.heard.map Prod.snd = [[5, 6], [7]] ∧
    k'.heard.map Prod.snd = k'.messages.map Datagram.payload := by
  have hrun : (((letterbox 7 0 [⟨.zero, Bytes.frame [5, 6]⟩,
      ⟨{ SockaddrIn.zero with sAddr := 1 }, Bytes.frame [7]⟩]).run
      (udtcpClientPoll 8 0 datagramClient) ⟨[], 0, []⟩).map fun o ↦
        decide (o.2.2.heard.map Prod.snd = [[5, 6], [7]])) = some true := by
    decide +kernel
  obtain ⟨⟨tr, ⟨result, t'⟩, k'⟩, hrun, hheard⟩ := Option.map_eq_some_iff.mp hrun
  obtain ⟨hexec, ha⟩ := ((letterbox 7 0 _).run_eq_some_iff _ _ _ _ _).mp hrun
  have hpass : Repeats (mailKernel 7) ClientPass datagramClient ⟨[], 0, []⟩ t' k' :=
    (Repeats.refl _ _).tail ⟨8, 0, rfl⟩ hexec (ha.mono fun _ _ _ _ ↦ kernel_letterbox)
  exact ⟨t', k', hpass, of_decide_eq_true hheard,
    client_datagrams_in_order (t := datagramClient) (fun h ↦ absurd h (Nat.lt_irrefl 0)) rfl hpass⟩

/-! ### A server -/

/-- Where a datagram comes from, as far as `udtcp_get_infos` looks, and the message in it. -/
def Datagram.letter (d : Datagram) : (UInt32 × UInt16) × List UInt8 := (d.source.source, d.payload)

/-- The same of what a callback hands over: the record names the sender. -/
def letterOf (x : UdtcpInfos × List UInt8) : (UInt32 × UInt16) × List UInt8 :=
  (x.1.udpClientAddr.source, x.2)

namespace Mailbox

/-- The messages that were read. -/
def sent (k : Mailbox) : List ((UInt32 × UInt16) × List UInt8) := k.messages.map Datagram.letter

/-- The messages that were handed over. -/
def got (k : Mailbox) : List ((UInt32 × UInt16) × List UInt8) := k.heard.map letterOf

end Mailbox

section

variable {m : Nat} {s s' : UdtcpServer m} {addr : SockaddrIn}

private theorem udtcpGetInfos_isSome_iff : (udtcpGetInfos s addr).isSome ↔
    ∃ i, 2 ≤ i ∧ i < s.pollNfds ∧ (s.infos i).udpClientAddr.source = addr.source := by
  unfold udtcpGetInfos
  simp only [List.find?_isSome, List.mem_range'_1, decide_eq_true_eq, SockaddrIn.source,
    Prod.mk.injEq]
  constructor
  · rintro ⟨i, ⟨hlow, hi⟩, hsource⟩
    exact ⟨i, hlow, by omega, hsource⟩
  · rintro ⟨i, hlow, hi, hsource⟩
    exact ⟨i, ⟨hlow, by omega⟩, hsource⟩

/-- A message is handed over with the record of its sender, if the server knows one. -/
theorem map_mailHeard_udpRoute (s : UdtcpServer m) (d : Datagram) :
    (mailHeard s.udpRoute d).map letterOf =
      if d.Taken ∧ s.receiveUdpCallback = true ∧ (udtcpGetInfos s d.source).isSome then
        [d.letter] else [] := by
  unfold mailHeard UdtcpServer.udpRoute
  by_cases hc : d.Taken
  · rw [if_pos hc]
    cases hslot : udtcpGetInfos s d.source with
    | none => simp
    | some slot =>
      have hletter : letterOf (s.infos slot, d.payload) = d.letter := by
        rw [letterOf, Datagram.letter, (udtcpGetInfos_eq_some_iff.mp hslot).2.1]
      by_cases hcallback : s.receiveUdpCallback = true
      · simp [hc, hcallback, mailOf, hletter]
      · simp [hcallback]
  · simp [hc]

end

namespace Server

section

variable {m : Nat} {fd : Fd} {addr : SockaddrIn} {t t' : Thread (UdtcpServer m)} {k k' : Mailbox}
  {I : Thread (UdtcpServer m) → Mailbox → Prop}

/-- No datagram was taken or handed over, and the server knows whom it knew. -/
structure Still (t : Thread (UdtcpServer m)) (k : Mailbox) (t' : Thread (UdtcpServer m))
    (k' : Mailbox) : Prop where
  grows : k.Grows k'
  present : t.self.buffer.Present → t'.self.buffer.Present
  pollNfds : t.self.pollNfds ≤ t'.self.pollNfds
  infos : ∀ i < t.self.pollNfds, t'.self.infos i = t.self.infos i
  callback : t'.self.receiveUdpCallback = t.self.receiveUdpCallback

private theorem Still.call {c : Call} {r : c.Reply} (hcall : NoMail fd ⟨c, r⟩)
    (hstep : mailKernel fd k c r k') (hself : t'.self = t.self) : Still t k t' k' := by
  refine ⟨hcall.grows hstep, ?_, ?_, ?_, ?_⟩ <;> rw [hself]
  · exact id
  · exact fun _ _ ↦ rfl

private theorem must_receiveTcp_still (slot : Nat) :
    Must (mailKernel fd) (receiveTcp slot) t k fun _ t' k' ↦ Still t k t' k' := by
  intro tr n t' k' hrun ha
  have hpresent := (BufferStep.serverTcp hrun).present
  obtain ⟨u, hu, rfl⟩ := exec_receiveTcp.mp hrun
  refine ⟨grows_of_noMail (emits_receiveTcpWith_stream (streamCalls_noMail _) ?_ _ _ _ _ _ hu) ha,
    hpresent, Nat.le_refl _, fun _ _ ↦ rfl, rfl⟩
  intro f hf data v
  unfold UdtcpServer.tcpDeliver at hf
  split at hf
  · cases hf
    exact noMail_callback rfl v
  · cases hf

private theorem must_acceptClient_still (hpos : 0 < t.self.pollNfds) :
    Must (mailKernel fd) acceptClient t k fun _ t' k' ↦ Still t k t' k' := by
  intro tr n t' k' hrun ha
  have hgrows := grows_of_noMail (emits_acceptClient acceptCalls_noMail _ _ _ _ hrun) ha
  by_cases hn : n = -1
  · subst hn
    obtain ⟨hkept, -⟩ := sightings_acceptClient_failed hrun
    exact ⟨hgrows, fun h ↦ hkept.buffer ▸ h, Nat.le_of_eq hkept.pollNfds.symm, hkept.infos,
      hkept.receiveUdpCallback⟩
  · obtain ⟨-, -, fd', addr, bs, name, r, -, hself, -⟩ := sightings_acceptClient_done hrun hn hpos
    refine ⟨hgrows, fun h ↦ hself ▸ h, ?_, fun i hi ↦ ?_, ?_⟩ <;> rw [hself]
    · exact Nat.le_succ _
    · exact Function.update_of_ne (Nat.ne_of_lt hi) _ _
    · rfl

private theorem must_dropClient_still (slot : Nat) :
    Must (mailKernel fd) (dropClient slot) t k fun _ t' k' ↦ Still t k t' k' := by
  intro tr u t' k' hrun ha
  obtain ⟨r, r', rest, rfl, hrest, hself⟩ := exec_dropClient hrun
  have hquiet : ∀ e ∈ rest, NoMail fd e := by
    rw [hrest]
    split
    · exact List.forall_mem_singleton.mpr (noMail_callback rfl ())
    · exact List.forall_mem_nil _
  refine ⟨grows_of_noMail (List.forall_mem_cons.mpr ⟨fun _ _ h ↦ ?_,
    List.forall_mem_cons.mpr ⟨fun _ _ h ↦ ?_, hquiet⟩⟩) ha, ?_, ?_, ?_, ?_⟩
  · cases r <;> exact h
  · cases r' <;> exact h
  all_goals rw [hself]
  · exact id
  · exact Nat.le_refl _
  · exact fun _ _ ↦ rfl
  · rfl

/-- **Rule for datagrams.** Up to the compaction of the table only a reception of a datagram does
more than wait for datagrams and learn of clients. -/
theorem scanRules_of_still (hpos : ∀ t k, I t k → 0 < t.self.pollNfds)
    (hstill : ∀ t k t' k', I t k → Still t k t' k' → I t' k')
    (hudp : Maintains (mailKernel fd) I (receiveUdp : ServerProc m Int)) :
    ScanRules (mailKernel fd) I where
  poll fds timeout t k r k' h hstep := hstill _ _ _ _ h
    (.call (fun _ _ h ↦ by cases r <;> exact h) hstep (t.note_self r))
  revents t k revents h := hstill _ _ _ _ h
    ⟨.refl k, id, Nat.le_refl _, fun _ _ ↦ rfl, rfl⟩
  flag t k r k' h hstep := hstill _ _ _ _ h (.call (c := .pollLoop) (fun _ _ h ↦ h) hstep rfl)
  acceptClient t k h := (must_acceptClient_still (hpos t k h)).mono fun _ _ _ ↦ hstill _ _ _ _ h
  receiveUdp := hudp
  serveClient fuel slot := by
    refine maintains_serveClient (fun t k r k' h hstep ↦ ?_) (fun t k h ↦ ?_) fun t k h ↦ ?_
    · exact hstill _ _ _ _ h (.call (c := .pollLoop) (fun _ _ h ↦ h) hstep rfl)
    · exact (must_receiveTcp_still slot).mono fun _ _ _ ↦ hstill _ _ _ _ h
    · exact (must_dropClient_still slot).mono fun _ _ _ ↦ hstill _ _ _ _ h

/-- A server on the datagram socket `fd`: what it handed over are messages it read, of the senders
it says. -/
structure Hears (fd : Fd) (t : Thread (UdtcpServer m)) (k : Mailbox) : Prop where
  present : t.self.buffer.Present
  pollNfds : 2 ≤ t.self.pollNfds
  socket : t.self.serverInfos.udpServerSocket = fd
  read : k.read ≤ k.arrived.length
  heard : k.got.Sublist k.sent

/-- What does not touch the mailbox keeps it heard. -/
theorem Hears.still (h : Hears fd t k) (hstill : Still t k t' k') : Hears fd t' k' := by
  have hinfos : t'.self.serverInfos = t.self.serverInfos :=
    hstill.infos 0 (Nat.lt_of_lt_of_le Nat.zero_lt_two h.pollNfds)
  refine ⟨hstill.present h.present, Nat.le_trans h.pollNfds hstill.pollNfds, hinfos ▸ h.socket,
    hstill.grows.read_le h.read, ?_⟩
  rw [Mailbox.sent, Mailbox.got, hstill.grows.messages h.read, hstill.grows.kept.2]
  exact h.heard

private theorem must_receiveUdp_hears_server (h : Hears fd t k) :
    Must (mailKernel fd) receiveUdp t k fun _ t' k' ↦ Hears fd t' k' ∧
      t'.self = { t.self with buffer := t'.self.buffer } ∧ (k'.got = k.got ∧ k'.sent = k.sent ∨
        ∃ d, k'.got = k.got ++ (mailHeard t.self.udpRoute d).map letterOf ∧
          k'.sent = k.sent ++ if d.Taken then [d.letter] else []) := by
  intro tr n t' k' hrun ha
  obtain ⟨u, hu, rfl⟩ := exec_receiveUdp.mp hrun
  rw [h.socket] at hu
  obtain ⟨hpresent, hreceived⟩ := must_receiveUdpWith_mail h.present _ _ _ _ hu ha
  obtain ⟨hread, hend⟩ := hreceived.messages h.read
  have hletters : k'.got = k.got ∧ k'.sent = k.sent ∨
      ∃ d, k'.got = k.got ++ (mailHeard t.self.udpRoute d).map letterOf ∧
        k'.sent = k.sent ++ if d.Taken then [d.letter] else [] := by
    unfold Mailbox.got Mailbox.sent
    rcases hend with ⟨hheard, hmessages⟩ | ⟨d, hheard, hmessages⟩
    · exact .inl ⟨by rw [hheard], by rw [hmessages]⟩
    · refine .inr ⟨d, by rw [hheard, List.map_append], ?_⟩
      rw [hmessages, List.map_append]
      split <;> rfl
  refine ⟨⟨hpresent, h.pollNfds, h.socket, hread, ?_⟩, rfl, hletters⟩
  rcases hletters with ⟨hgot, hsent⟩ | ⟨d, hgot, hsent⟩
  · rw [hgot, hsent]
    exact h.heard
  · rw [hgot, hsent, map_mailHeard_udpRoute]
    refine h.heard.append ?_
    by_cases hc : d.Taken
    · rw [if_pos hc]
      split
      · exact List.Sublist.refl _
      · exact List.nil_sublist _
    · simp [hc]

private theorem Hears.compact (h : Hears fd t k) :
    Hears fd { t with self := t.self.compact } k := by
  obtain ⟨-, hlen, -, hbelow⟩ :=
    UdtcpServer.compactFrom_spec (s := t.self) (Nat.le_add_right t.self.pollNfds 2) h.pollNfds
  have hinfos : t.self.compact.serverInfos = t.self.serverInfos :=
    (Prod.mk.inj (hbelow 0 Nat.zero_lt_two)).2
  refine ⟨?_, hlen, ?_, h.read, h.heard⟩
  · show t.self.compact.buffer.Present
    rw [(compact_keeps t.self).1]
    exact h.present
  · show t.self.compact.serverInfos.udpServerSocket = fd
    rw [hinfos]
    exact h.socket

private theorem must_udtcpServerPoll_hears (h : Hears fd t k) (fuel : Nat) (timeout : Int) :
    Must (mailKernel fd) (udtcpServerPoll fuel timeout) t k fun _ t' k' ↦ Hears fd t' k' := by
  have hrules : ScanRules (mailKernel fd) (Hears (m := m) fd) :=
    scanRules_of_still (fun t k h ↦ Nat.lt_of_lt_of_le Nat.zero_lt_two h.pollNfds)
      (fun t k t' k' h ↦ h.still)
      fun t k h ↦ (must_receiveUdp_hears_server h).mono fun _ _ _ h' ↦ h'.1
  exact hrules.must_udtcpServerPoll (fun _ _ h ↦ h) (fun _ _ h ↦ h.compact) fuel timeout h

/-- Moreover, all messages from `addr` that it read were handed over. -/
structure HearsAll (fd : Fd) (addr : SockaddrIn) (t : Thread (UdtcpServer m)) (k : Mailbox) :
    Prop extends Hears fd t k where
  callback : t.self.receiveUdpCallback = true
  all : k.got.filter (·.1 = addr.source) = k.sent.filter (·.1 = addr.source)

private theorem HearsAll.still (h : HearsAll fd addr t k) (hstill : Still t k t' k') :
    HearsAll fd addr t' k' := by
  refine ⟨h.toHears.still hstill, hstill.callback.trans h.callback, ?_⟩
  rw [Mailbox.sent, Mailbox.got, hstill.grows.messages h.read, hstill.grows.kept.2]
  exact h.all

private theorem known_still (h : (udtcpGetInfos t.self addr).isSome) (hstill : Still t k t' k') :
    (udtcpGetInfos t'.self addr).isSome := by
  obtain ⟨i, hlow, hi, hsource⟩ := udtcpGetInfos_isSome_iff.mp h
  refine udtcpGetInfos_isSome_iff.mpr ⟨i, hlow, Nat.lt_of_lt_of_le hi hstill.pollNfds, ?_⟩
  rw [hstill.infos i hi]
  exact hsource

private theorem filter_mailHeard {s : UdtcpServer m} (hcallback : s.receiveUdpCallback = true)
    (hknown : (udtcpGetInfos s addr).isSome) (d : Datagram) :
    ((mailHeard s.udpRoute d).map letterOf).filter (·.1 = addr.source) =
      (if d.Taken then [d.letter] else []).filter (·.1 = addr.source) := by
  rw [map_mailHeard_udpRoute]
  by_cases hsource : d.source.source = addr.source
  · have hsome : (udtcpGetInfos s d.source).isSome := by
      obtain ⟨i, hlow, hi, heq⟩ := udtcpGetInfos_isSome_iff.mp hknown
      exact udtcpGetInfos_isSome_iff.mpr ⟨i, hlow, hi, heq.trans hsource.symm⟩
    simp only [hcallback, hsome, and_true]
  · have hnone : ([d.letter].filter (·.1 = addr.source)) = [] := by
      simp [Datagram.letter, hsource]
    split <;> split <;> first | rfl | exact hnone | exact hnone.symm

private theorem must_udtcpServerPoll_hearsAll (h : HearsAll fd addr t k)
    (hknown : (udtcpGetInfos t.self addr).isSome) (fuel : Nat) (timeout : Int) :
    Must (mailKernel fd) (udtcpServerPoll fuel timeout) t k fun _ t' k' ↦
      HearsAll fd addr t' k' := by
  let I : Thread (UdtcpServer m) → Mailbox → Prop := fun t k ↦
    HearsAll fd addr t k ∧ (udtcpGetInfos t.self addr).isSome
  have hrules : ScanRules (mailKernel fd) I := by
    refine scanRules_of_still (fun t k h ↦ Nat.lt_of_lt_of_le Nat.zero_lt_two h.1.pollNfds)
      (fun t k t' k' h hstill ↦ ⟨h.1.still hstill, known_still h.2 hstill⟩) fun t k h ↦ ?_
    refine (must_receiveUdp_hears_server h.1.toHears).mono ?_
    rintro _ t' k' ⟨hears, hself, hletters⟩
    refine ⟨⟨hears, by rw [hself]; exact h.1.callback, ?_⟩, by rw [hself]; exact h.2⟩
    rcases hletters with ⟨hgot, hsent⟩ | ⟨d, hgot, hsent⟩
    · rw [hgot, hsent]
      exact h.1.all
    · rw [hgot, hsent, List.filter_append, List.filter_append, h.1.all,
        filter_mailHeard h.1.callback h.2]
  refine hrules.must_udtcpServerPoll (fun _ _ h ↦ h.1) (fun t k h ↦ ?_) fuel timeout ⟨h, hknown⟩
  exact ⟨h.1.toHears.compact, (compact_receiveUdpCallback t.self).trans h.1.callback, h.1.all⟩

end

end Server

/-- **A server hears the datagrams of its clients in order.** However many passes it makes, whoever
comes and goes and whatever comes in meanwhile, each message handed over is that of one datagram
that was read, the bytes it announces, with a record of its very source; none is handed over twice,
none overtakes another, and a datagram cut short or from elsewhere yields nothing. -/
theorem server_datagrams_in_order {m : Nat} {t t' : Thread (UdtcpServer m)} {k' : Mailbox}
    (hbuffer : t.self.buffer.Present) (hn : 2 ≤ t.self.pollNfds)
    (h : Repeats (mailKernel t.self.serverInfos.udpServerSocket) ServerPass t ⟨[], 0, []⟩ t' k') :
    k'.got.Sublist k'.sent := by
  have hstart : Server.Hears t.self.serverInfos.udpServerSocket t ⟨[], 0, []⟩ :=
    ⟨hbuffer, hn, rfl, Nat.le_refl 0, List.nil_sublist _⟩
  refine Server.Hears.heard (h.invariant (I := Server.Hears _) ?_ hstart)
  rintro p ⟨fuel, timeout, rfl⟩ t k hears
  exact Server.must_udtcpServerPoll_hears hears fuel timeout

/-- **A server hears all that a client of its table says.** Over passes each of which begins with
the source `addr` in the table, the messages handed over as from there are those of the datagrams
from there that were read and hold at least the bytes they announce: each once, in order, whatever
else comes in. -/
theorem server_datagrams_of_client {m : Nat} {t t' : Thread (UdtcpServer m)} {k' : Mailbox}
    {addr : SockaddrIn} (hbuffer : t.self.buffer.Present) (hn : 2 ≤ t.self.pollNfds)
    (hcallback : t.self.receiveUdpCallback = true)
    (h : RepeatsWhile (mailKernel t.self.serverInfos.udpServerSocket) ServerPass
      (fun u ↦ (udtcpGetInfos u.self addr).isSome) t ⟨[], 0, []⟩ t' k') :
    k'.got.filter (·.1 = addr.source) = k'.sent.filter (·.1 = addr.source) := by
  have hstart : Server.HearsAll t.self.serverInfos.udpServerSocket addr t ⟨[], 0, []⟩ :=
    ⟨⟨hbuffer, hn, rfl, Nat.le_refl 0, List.nil_sublist _⟩, hcallback, rfl⟩
  refine Server.HearsAll.all (h.invariant (I := Server.HearsAll _ addr) ?_ hstart)
  rintro p ⟨fuel, timeout, rfl⟩ t k hknown hears
  exact Server.must_udtcpServerPoll_hearsAll hears hknown fuel timeout

/-- A server with one client, whose datagrams come from address `1`. -/
def datagramServer : Thread (UdtcpServer 1) :=
  ⟨.other 0, { hearingServer.self with
    infos := Function.update hearingServer.self.infos 2
      { UdtcpInfos.zero with tcpSocket := 7, udpClientAddr := { SockaddrIn.zero with sAddr := 1 } }
    receiveUdpCallback := true }⟩

/-- A message of the client and one of a stranger. -/
def twoLetters : List Datagram :=
  [⟨{ SockaddrIn.zero with sAddr := 1 }, Bytes.frame [5, 6]⟩,
    ⟨{ SockaddrIn.zero with sAddr := 2 }, Bytes.frame [7]⟩]

private theorem exists_datagram_pass : ∃ tr result t' k',
    Exec (udtcpServerPoll 8 0) datagramServer tr result t' ∧
      (mailKernel 4).Accepts ⟨[], 0, []⟩ tr k' ∧ k'.got = [((1, 0), [5, 6])] ∧
      k'.sent = [((1, 0), [5, 6]), ((2, 0), [7])] := by
  have hrun : (((letterbox 4 1 twoLetters).run (udtcpServerPoll 8 0 datagramServer)
      ⟨[], 0, []⟩).map fun o ↦ decide (o.2.2.got = [((1, 0), [5, 6])] ∧
        o.2.2.sent = [((1, 0), [5, 6]), ((2, 0), [7])])) = some true := by
    decide +kernel
  obtain ⟨⟨tr, ⟨result, t'⟩, k'⟩, hrun, hheard⟩ := Option.map_eq_some_iff.mp hrun
  obtain ⟨hexec, ha⟩ := ((letterbox 4 1 _).run_eq_some_iff _ _ _ _ _).mp hrun
  have hheard := of_decide_eq_true hheard
  exact ⟨tr, result, t', k', hexec, ha.mono fun _ _ _ _ ↦ kernel_letterbox, hheard⟩

/-- A message of a client is heard, one of a stranger is not. -/
theorem server_datagrams_in_order_stranger : ∃ t' k',
    Repeats (mailKernel 4) ServerPass datagramServer ⟨[], 0, []⟩ t' k' ∧
      k'.got = [((1, 0), [5, 6])] ∧ k'.got.Sublist k'.sent := by
  obtain ⟨tr, result, t', k', hexec, ha, hgot, -⟩ := exists_datagram_pass
  have hpass : Repeats (mailKernel 4) ServerPass datagramServer ⟨[], 0, []⟩ t' k' :=
    (Repeats.refl _ _).tail ⟨8, 0, rfl⟩ hexec ha
  exact ⟨t', k', hpass, hgot,
    server_datagrams_in_order (t := datagramServer) (fun h ↦ absurd h (Nat.lt_irrefl 0))
      (by decide) hpass⟩

/-- All that the client says is heard. -/
theorem server_datagrams_of_client_one : ∃ t' k',
    RepeatsWhile (mailKernel 4) ServerPass
      (fun u ↦ (udtcpGetInfos u.self { SockaddrIn.zero with sAddr := 1 }).isSome)
      datagramServer ⟨[], 0, []⟩ t' k' ∧ k'.sent = [((1, 0), [5, 6]), ((2, 0), [7])] ∧
      k'.got.filter (·.1 = (1, 0)) = k'.sent.filter (·.1 = (1, 0)) := by
  obtain ⟨tr, result, t', k', hexec, ha, -, hsent⟩ := exists_datagram_pass
  have hpass : RepeatsWhile (mailKernel 4) ServerPass
      (fun u ↦ (udtcpGetInfos u.self { SockaddrIn.zero with sAddr := 1 }).isSome)
      datagramServer ⟨[], 0, []⟩ t' k' :=
    (RepeatsWhile.refl _ _).tail ⟨8, 0, rfl⟩ (by decide) hexec ha
  exact ⟨t', k', hpass, hsent, server_datagrams_of_client
    (t := datagramServer) (fun h ↦ absurd h (Nat.lt_irrefl 0)) (by decide) rfl hpass⟩

end Udtcp
