import Udtcp.Receive.Calls
import Udtcp.Server.Buffer
import Udtcp.Server.Calls
import Udtcp.Server.Possible
import Udtcp.Server.Serving
import Udtcp.Transfer.Incoming

/-!
# Messages arrive in order

Passes of a server (`server_poll.c:440–538`) and of a client (`client_poll.c:272–360`) while one
TCP connection brings messages, cut into pieces as the network likes.
-/

namespace Udtcp

open Interaction Routine

/-! ### Messages in pieces -/

/-- How many bytes come at a time: a size at once, a message byte by byte. -/
def pieceOf (target : Target) (len : Nat) : Nat := if target = .word then len else min len 1

private theorem length_piece_le (bytes : List UInt8) (target : Target) (len : Nat) :
    (bytes.take (pieceOf target len)).length ≤ len := by
  refine Nat.le_trans (List.length_take_le _ _) ?_
  unfold pieceOf
  split
  · exact Nat.le_refl len
  · exact Nat.min_le_left len 1

/-- Surroundings in which entry `slot` is ready and connection `7` gives its bytes in pieces. -/
def piecemeal (slot : Nat) : Handler posix Incoming := fun k c ↦
  if k.isOpen = true then
    match c with
    | .sys (.recv fd target len) =>
      if fd = 7 ∧ (target = .word → (k.pending.take (pieceOf target len)).length = 4) then
        some (.ok ⟨k.pending.take (pieceOf target len), length_piece_le k.pending target len⟩,
          { k with pending := k.pending.drop (pieceOf target len) })
      else if target = .word then
        some (.error .ewouldblock, k)
      else
        none
    | .sys (.poll fds timeout) =>
      if timeout = -1 then
        if fds = [] then none else some (.ok (Vector.replicate fds.length POLLIN), k)
      else
        some (.ok (Vector.ofFn fun i ↦ onlyReady slot i), k)
    | .sys (.newBuffer size) => some (.ok (Block.fresh 1 size), k)
    | .freeBuffer _ => some ((), k)
    | .pollLoop => some (true, k)
    | .callback (.receiveTcp _ infos data) =>
      some ((), if infos.tcpSocket = 7 then { k with delivered := k.delivered ++ [data] } else k)
    | _ => none
  else none

/-- They are surroundings of the receiving end of connection `7`. -/
theorem kernel_piecemeal {slot : Nat} {k k' : Incoming} {c : Call} {r : c.Reply}
    (h : (piecemeal slot).kernel k c r k') : incomingKernel 7 k c r k' := by
  have h : piecemeal slot k c = some (r, k') := h
  unfold piecemeal at h
  split at h
  · next hopen =>
    rw [incomingKernel_open hopen]
    split at h
    · next f target len h =>
      split at h
      · next hpiece =>
        cases h
        obtain ⟨rfl, hsize⟩ := hpiece
        exact ⟨fun hword ↦ .inr (hsize hword), _, (List.take_append_drop _ _).symm, rfl⟩
      · split at h
        · next hword =>
          cases h
          exact ⟨fun _ hother ↦ absurd hword hother, rfl⟩
        · cases h
    · next fds timeout =>
      split at h
      · next htimeout =>
        split at h
        · cases h
        · next hfds =>
          cases h
          refine ⟨fun _ hnone ↦ hfds (List.eq_nil_of_length_eq_zero ?_), rfl⟩
          simpa [pollCount, POLLIN] using hnone
      · next htimeout =>
        cases h
        exact ⟨fun hinfinite ↦ absurd hinfinite htimeout, rfl⟩
    · cases h
      rfl
    · cases h
      rfl
    · cases h
      rfl
    · cases h
      rfl
    · cases h
  · cases h

/-! ### Calls of a server that spare the connection -/

section

variable {m : Nat} {fd : Fd} {messages : List (List UInt8)} {t t' : Thread (UdtcpServer m)}
  {k k' : Incoming} {tr : Trace posix} {n : Int} {slot fuel : Nat}

private theorem spares_receiverCalls {other : Fd} (h : other ≠ fd) :
    ReceiverCalls (Spares fd) other where
  poll r k k' hk := by cases r <;> exact .inl hk.2
  recvWord r k k' hk := by
    cases r with
    | error e => exact .inl hk.2
    | ok bs =>
      have hk : if other = fd then _ else k' = k := hk
      rw [if_neg h] at hk
      exact .inl hk
  recvBuffer ptr cap offset len r k k' hk := by
    cases r with
    | error e => exact .inl hk.2
    | ok bs =>
      have hk : if other = fd then _ else k' = k := hk
      rw [if_neg h] at hk
      exact .inl hk
  peek r k k' hk := by cases r <;> exact .inl hk
  take _ _ _ _ r k k' hk := by cases r <;> exact .inl hk
  newBuffer _ r k k' hk := by
    cases r with
    | error e => exact .inl hk.2
    | ok block => exact .inl hk
  freeBuffer _ _ k k' hk := .inl hk

private theorem spares_datagramCalls (other : Fd) : DatagramCalls (Spares fd) other where
  peek r k k' hk := by cases r <;> exact .inl hk
  take _ _ _ _ r k k' hk := by cases r <;> exact .inl hk
  newBuffer _ r k k' hk := by
    cases r with
    | error e => exact .inl hk.2
    | ok block => exact .inl hk
  freeBuffer _ _ k k' hk := .inl hk

private theorem spares_callback {infos : UdtcpInfos} (h : infos.tcpSocket ≠ fd) (slot : Nat)
    (data : List UInt8) (u : Unit) : Spares fd ⟨.callback (.receiveTcp slot infos data), u⟩ := by
  intro k k' hk
  have hk : k' = if infos.tcpSocket = fd then { k with delivered := k.delivered ++ [data] }
    else k := hk
  rw [if_neg h] at hk
  exact .inl hk

private theorem spares_close (other : Fd) (r : Except Errno Unit) :
    Spares fd ⟨.sys (.close other), r⟩ := by
  intro k k' hk
  have hk : k' = if other = fd then { k with isOpen := false } else k := by cases r <;> exact hk
  split at hk
  · exact .inr hk
  · exact .inl hk

private theorem accepted_of_record (h : Exec acceptClient t tr n t') {f : Fd} {bs : List UInt8}
    (hbs : Sighting.record f bs ∈ sightings tr) :
    ∃ server peer rest, tr = ⟨.sys (.accept server), .ok peer⟩ :: rest ∧ peer.1.val = f := by
  rcases exec_acceptClient h with ⟨e, rfl, -⟩ | ⟨d, addr, rest, rfl, hcases⟩
  · cases hbs
  refine ⟨_, (d, addr), rest, rfl, ?_⟩
  rcases hcases with ⟨-, -, -, r, r', rfl⟩ | ⟨-, t₁, hs₁, hadmit⟩
  · have hnone : Sighting.record f bs ∈ [.accepted d.val addr, .closed d.val] := by
      cases r <;> cases r' <;> exact hbs
    simp at hnone
  have hfd : (t₁.self.infos t.self.pollNfds).tcpSocket = d.val := by
    rw [hs₁, UdtcpServer.infos_modifyInfos_self]
  obtain ⟨tr₁, o, t₂, rest, rfl, hopt, hrest⟩ := exec_admitClient hadmit
  obtain ⟨hs₂, -, -⟩ := exec_udtcpSocketAddOption hopt
  rw [sightings_cons, sightings_append, sightings_addOption hopt] at hbs
  have hbs : Sighting.record f bs ∈ .accepted d.val addr :: sightings rest := hbs
  have hbs : Sighting.record f bs ∈ sightings rest := by simpa using hbs
  rcases hrest with ⟨-, -, -, r, rfl⟩ | ⟨-, tr₂, k, t₃, tr₃, rfl, hinit, hend⟩
  · have hnone : Sighting.record f bs ∈ [.closed (t₁.self.infos t.self.pollNfds).tcpSocket] := hbs
    simp at hnone
  rw [sightings_append] at hbs
  have hlast : Sighting.record f bs ∉ sightings tr₃ := by
    rcases hend with ⟨-, -, -, r, rfl⟩ | ⟨-, -, hreg⟩
    · have heq : sightings [⟨.sys (.close (t₃.self.infos t.self.pollNfds).tcpSocket), r⟩] =
          [.closed (t₃.self.infos t.self.pollNfds).tcpSocket] := rfl
      simp [heq]
    · obtain ⟨key, name, rest, r, rfl, -, hcall, -⟩ := exec_registerClient hreg
      rw [sightings_cons]
      rcases hcall with ⟨-, v, rfl⟩ | ⟨-, rfl⟩
      · have heq : sightings [⟨.callback (.connect t.self.pollNfds r), v⟩] =
            [.connected t.self.pollNfds r] := rfl
        cases name <;> simp [sightingOf, heq]
      · cases name <;> simp [sightingOf]
  have hbs := (List.mem_append.mp hbs).resolve_right hlast
  rcases sightings_initializeConnection hinit with ⟨-, hnone, -⟩ | ⟨bs', hsome, -⟩
  · rw [hnone] at hbs
    cases hbs
  · rw [hsome, hs₂, hfd] at hbs
    cases List.mem_singleton.mp hbs
    rfl

private theorem spares_acceptClient (hopen : k.isOpen = true)
    (h : Exec acceptClient t tr n t') (ha : (incomingKernel fd).Accepts k tr k') :
    ∀ e ∈ tr, Spares fd e := by
  have hcalls : AcceptCalls fun e ↦
      Spares fd e ∨ ∃ bs, sightingOf e.call e.reply = some (.record fd bs) := by
    refine ⟨fun c r hc ↦ ?_, fun _ _ ↦ .inl fun _ _ hk ↦ .inl hk,
      fun _ _ ↦ .inl fun _ _ hk ↦ .inl hk,
      fun _ _ _ ↦ .inl fun _ _ hk ↦ .inl hk, fun _ _ _ ↦ .inl fun _ _ hk ↦ .inl hk⟩
    cases c
    case recv f target len =>
      cases target
      case record =>
        cases r with
        | error e => exact .inl fun _ _ hk ↦ .inl hk.2
        | ok bs =>
          by_cases hf : f = fd
          · exact .inr ⟨bs.val, by rw [hf]; rfl⟩
          · refine .inl fun k k' hk ↦ ?_
            have hk : if f = fd then _ else k' = k := hk
            rw [if_neg hf] at hk
            exact .inl hk
      all_goals cases hc
    case accept f =>
      cases r with
      | error e => exact .inl fun _ _ hk ↦ .inl hk
      | ok peer => exact .inl fun _ _ hk ↦ .inl hk.2
    case poll fds timeout => cases r <;> exact .inl fun _ _ hk ↦ .inl hk.2
    case close f => exact .inl (spares_close f r)
    case getfl f => cases r <;> exact .inl fun _ _ hk ↦ .inl hk
    case setfl f flags => cases r <;> exact .inl fun _ _ hk ↦ .inl hk
    case send f data => cases r <;> exact .inl fun _ _ hk ↦ .inl hk
    all_goals cases hc
  intro e he
  refine (emits_acceptClient hcalls _ _ _ _ h e he).resolve_right ?_
  rintro ⟨bs, hbs⟩
  obtain ⟨server, peer, rest, rfl, hpeer⟩ :=
    accepted_of_record h (List.mem_filterMap.mpr ⟨e, he, hbs⟩)
  obtain ⟨k₁, hk, -⟩ := ha
  exact ((incomingKernel_open hopen).mp hk).1 hpeer

/-! ### A server -/

/-- A server that hands messages over, and the connection it reads: all is in order. -/
structure Attends (messages : List (List UInt8)) (t : Thread (UdtcpServer m)) (k : Incoming) :
    Prop where
  present : t.self.buffer.Present
  callback : t.self.receiveTcpCallback = true
  orderly : k.Orderly messages

private theorem Attends.spared (h : Attends messages t k) (hspares : ∀ e ∈ tr, Spares fd e)
    (ha : (incomingKernel fd).Accepts k tr k') (hbuffer : t'.self.buffer = t.self.buffer)
    (hcallback : t'.self.receiveTcpCallback = t.self.receiveTcpCallback) : Attends messages t' k' :=
  ⟨hbuffer ▸ h.present, hcallback.trans h.callback, h.orderly.spared hspares ha⟩

private theorem Attends.call (h : Attends messages t k) {c : Call} {r : c.Reply}
    (hspares : Spares fd ⟨c, r⟩) (hk : incomingKernel fd k c r k') : Attends messages t k' := by
  have hone : (incomingKernel fd).Accepts k [⟨c, r⟩] k' := ⟨k', hk, rfl⟩
  exact h.spared (List.forall_mem_singleton.mpr hspares) hone rfl rfl

private theorem maintains_acceptClient_attends :
    Maintains (incomingKernel fd) (Attends (m := m) messages) acceptClient := by
  intro t k h tr n t' k' hrun ha
  have hkept : t'.self.buffer = t.self.buffer ∧
      t'.self.receiveTcpCallback = t.self.receiveTcpCallback :=
    Maintains.exec (I := fun u : Thread (UdtcpServer m) ↦ u.self.buffer = t.self.buffer ∧
      u.self.receiveTcpCallback = t.self.receiveTcpCallback)
      (fun ker ↦ keeps_acceptClient (P := fun s ↦ s.buffer = t.self.buffer ∧
        s.receiveTcpCallback = t.self.receiveTcpCallback)
        fun s s' hb hc hs ↦ ⟨hb.trans hs.1, hc.trans hs.2⟩) hrun ⟨rfl, rfl⟩
  by_cases hopen : k.isOpen = true
  · exact h.spared (spares_acceptClient hopen hrun ha) ha hkept.1 hkept.2
  · rw [accepts_incomingKernel_closed hopen ha]
    exact ⟨hkept.1 ▸ h.present, hkept.2.trans h.callback, h.orderly⟩

private theorem maintains_receiveUdp_attends :
    Maintains (incomingKernel fd) (Attends (m := m) messages) receiveUdp := by
  intro t k h tr n t' k' hrun ha
  have hpresent := (BufferStep.serverUdp hrun).present h.present
  obtain ⟨u, hu, rfl⟩ := exec_receiveUdp.mp hrun
  have hspares : ∀ e ∈ tr, Spares fd e := by
    refine emits_receiveUdpWith (spares_datagramCalls _) (fun addr f hf data v ↦ ?_) cInt _ _ _ _ hu
    obtain ⟨slot, -, hroute⟩ := Option.map_eq_some_iff.mp hf
    split at hroute
    · cases hroute
      exact fun k k' hk ↦ .inl hk
    · cases hroute
  exact ⟨hpresent, h.callback, h.orderly.spared hspares ha⟩

-- What a reception for one client leaves behind.
private def Drained (fd : Fd) (messages : List (List UInt8)) (slot : Nat) (n : Int)
    (t : Thread (UdtcpServer m)) (k : Incoming) : Prop :=
  t.self.buffer.Present ∧ t.self.receiveTcpCallback = true ∧ k.delivered <+: messages ∧
    (0 < n ∨ n < 0 ∧ t.errno = .ewouldblock ∨ (t.self.infos slot).tcpSocket ≠ fd →
      k.Orderly messages)

private theorem must_receiveTcp_drained (hmessages : ∀ m ∈ messages, Bytes.Framable m)
    (h : Attends messages t k) :
    Must (incomingKernel fd) (receiveTcp slot) t k (Drained fd messages slot) := by
  intro tr n t' k' hrun ha
  have hpresent := (BufferStep.serverTcp hrun).present h.present
  obtain ⟨u, hu, rfl⟩ := exec_receiveTcp.mp hrun
  rw [UdtcpServer.tcpDeliver, if_pos h.callback] at hu
  by_cases hfd : (t.self.infos slot).tcpSocket = fd
  · by_cases hopen : k.isOpen = true
    · rw [hfd] at hu
      obtain ⟨-, -, hdelivered, horderly⟩ := must_receiveTcpWith_incoming
        (fun data ↦ ⟨slot, _, rfl, hfd⟩) hmessages h.present hopen h.orderly tr n u k' hu ha
      refine ⟨hpresent, h.callback, hdelivered, ?_⟩
      rintro (hpos | hagain | hother)
      · exact horderly (.inl hpos)
      · exact horderly (.inr hagain)
      · exact absurd hfd hother
    · rw [accepts_incomingKernel_closed hopen ha]
      exact ⟨hpresent, h.callback, h.orderly.delivered, fun _ ↦ h.orderly⟩
  · have hspares : ∀ e ∈ tr, Spares fd e := by
      refine emits_receiveTcpWith (spares_receiverCalls hfd) (fun f hf data v ↦ ?_) cInt _ _ _ _ hu
      cases hf
      exact spares_callback hfd slot data v
    have horderly := h.orderly.spared hspares ha
    exact ⟨hpresent, h.callback, horderly.delivered, fun _ ↦ horderly⟩

private theorem maintains_serveClient_attends (hmessages : ∀ m ∈ messages, Bytes.Framable m) :
    Maintains (incomingKernel fd) (Attends (m := m) messages) (serveClient fuel slot) := by
  intro t k h tr marked t' k' hrun ha
  obtain ⟨tr₁, ret, t₁, tr₂, rfl, hdrain, hend⟩ := exec_serveClient hrun
  obtain ⟨k₁, ha₁, ha₂⟩ := (incomingKernel fd).accepts_append.mp ha
  have hflag (n : Int) (t : Thread (UdtcpServer m)) (k : Incoming) (on : Bool) (k' : Incoming)
      (hd : Drained fd messages slot n t k) (hk : incomingKernel fd k .pollLoop on k') :
      Drained fd messages slot n t k' := by
    have hsame : k' = k := by
      unfold incomingKernel at hk
      split at hk <;> exact hk
    rw [hsame]
    exact hd
  have hdrained : Drained fd messages slot ret t₁ k₁ := must_drain hflag
    (must_receiveTcp_drained hmessages h)
    (fun n t k hd hagain ↦ must_receiveTcp_drained hmessages
      ⟨hd.1, hd.2.1, hd.2.2.2 (.inl (of_decide_eq_true hagain))⟩) tr₁ ret t₁ k₁ hdrain ha₁
  obtain ⟨hpresent, hcallback, hdelivered, horderly⟩ := hdrained
  rcases hend with ⟨-, rfl, rfl, hkept⟩ | ⟨-, hdrop, -⟩
  · have horderly := horderly (hkept.elim .inl fun h ↦ .inr (.inl h))
    rw [show k' = k₁ from ha₂]
    exact ⟨hpresent, hcallback, horderly⟩
  obtain ⟨r, r', rest, rfl, hrest, hself⟩ := exec_dropClient hdrop
  have hspares : ∀ e ∈ (⟨.sys (.shutdown (t₁.self.infos slot).tcpSocket), r⟩ ::
      ⟨.sys (.close (t₁.self.infos slot).tcpSocket), r'⟩ :: rest : Trace posix), Spares fd e := by
    refine List.forall_mem_cons.mpr ⟨fun k k' hk ↦ .inl (by cases r <;> exact hk),
      List.forall_mem_cons.mpr ⟨spares_close _ _, fun e he ↦ ?_⟩⟩
    rw [hrest] at he
    split at he
    · obtain rfl := List.mem_singleton.mp he
      exact fun k k' hk ↦ .inl hk
    · cases he
  have hkept : Attends messages t' k' ↔ k'.Orderly messages := by
    refine ⟨Attends.orderly, fun hk ↦ ⟨?_, ?_, hk⟩⟩
    · rw [hself]
      exact hpresent
    · rw [hself]
      exact hcallback
  rw [hkept]
  by_cases hfd : (t₁.self.infos slot).tcpSocket = fd
  · -- the connection that is dropped is closed
    obtain ⟨k₂, hshut, k₃, hclose, hlast⟩ := ha₂
    have hsame : k₂ = k₁ := by
      unfold incomingKernel at hshut
      split at hshut
      · cases r <;> exact hshut
      · exact hshut
    have hclosed : k₃.isOpen = false ∧ k₃.delivered = k₁.delivered := by
      rw [hsame] at hclose
      unfold incomingKernel at hclose
      split at hclose
      · have hclose : k₃ = if (t₁.self.infos slot).tcpSocket = fd then { k₁ with isOpen := false }
            else k₁ := by cases r' <;> exact hclose
        rw [if_pos hfd] at hclose
        rw [hclose]
        exact ⟨rfl, rfl⟩
      · next hopen =>
        rw [hclose]
        exact ⟨by simpa using hopen, rfl⟩
    rw [accepts_incomingKernel_closed (by rw [hclosed.1]; nofun) hlast]
    exact .of_closed hclosed.1 (hclosed.2 ▸ hdelivered)
  · exact (horderly (.inr (.inr hfd))).spared hspares ha₂

private theorem Attends.same (h : Attends messages t k) (ht : t'.self.buffer = t.self.buffer)
    (hcallback : t'.self.receiveTcpCallback = t.self.receiveTcpCallback) : Attends messages t' k :=
  ⟨ht ▸ h.present, hcallback.trans h.callback, h.orderly⟩

private theorem servingRules_attends (hmessages : ∀ m ∈ messages, Bytes.Framable m) :
    Server.ServingRules (incomingKernel fd) (Attends (m := m) messages) where
  poll fds timeout t k r k' h hk := by
    have hspares : Spares fd ⟨.sys (.poll fds timeout), r⟩ := by
      cases r <;> exact fun k k' hk ↦ .inl hk.2
    have ht := t.note_self r
    exact (h.call hspares hk).same (congrArg UdtcpServer.buffer ht)
      (congrArg UdtcpServer.receiveTcpCallback ht)
  revents t k revents h := h.same rfl rfl
  flag t k r k' h hk := h.call (c := .pollLoop) (fun k k' hk ↦ .inl hk) hk
  acceptClient := maintains_acceptClient_attends
  receiveUdp := maintains_receiveUdp_attends
  serveClient _ _ := maintains_serveClient_attends hmessages
  compact t k h := h.same (compact_keeps t.self).1 (compact_keeps t.self).2

/-- A pass of a server. -/
def ServerPass (p : ServerProc m UdtcpPoll) : Prop :=
  ∃ fuel timeout, p = udtcpServerPoll fuel timeout

/-- Passes keep all in order. -/
theorem Attends.repeats (h : Attends messages t k) (hmessages : ∀ m ∈ messages, Bytes.Framable m)
    (hpasses : Repeats (incomingKernel fd) ServerPass t k t' k') : Attends messages t' k' := by
  refine hpasses.invariant (I := Attends messages) ?_ h
  rintro p ⟨fuel, timeout, rfl⟩
  exact (servingRules_attends hmessages).maintains_udtcpServerPoll fuel timeout

/-- **A server gets the messages of a connection in order**: however their frames are cut on the
way, in however many passes they are read and whatever else these passes do, those handed over are
the first ones, each whole and once, and of an open connection what is left to read are the frames
of the others. -/
theorem server_messages_in_order (hmessages : ∀ m ∈ messages, Bytes.Framable m)
    (hbuffer : t.self.buffer.Present) (hcallback : t.self.receiveTcpCallback = true)
    (h : Repeats (incomingKernel fd) ServerPass t ⟨true, Bytes.frames messages, []⟩ t' k') :
    k'.Orderly messages := by
  have hstart : Attends messages t ⟨true, Bytes.frames messages, []⟩ :=
    ⟨hbuffer, hcallback, List.nil_prefix, fun _ ↦ ⟨messages, rfl, rfl⟩⟩
  exact (hstart.repeats hmessages h).orderly

end

/-- A server with one client, on socket `7`. -/
def hearingServer : Thread (UdtcpServer 1) :=
  ⟨.other 0, { (UdtcpServer.listening 3 4 : UdtcpServer 1) with
    infos := Function.update (UdtcpServer.listening 3 4 : UdtcpServer 1).infos 2
      { UdtcpInfos.zero with tcpSocket := 7 }
    pollFds := Function.update (UdtcpServer.listening 3 4 : UdtcpServer 1).pollFds 2 ⟨7, POLLIN, 0⟩
    pollNfds := 3
    receiveTcpCallback := true }⟩

/-- Two messages, which the server gets in three and four pieces in one pass. -/
theorem server_messages_in_order_two : ∃ t' k', Repeats (incomingKernel 7) ServerPass hearingServer
    ⟨true, Bytes.frames [[5, 6], [7, 8, 9]], []⟩ t' k' ∧ k'.delivered = [[5, 6], [7, 8, 9]] ∧
    k'.Orderly [[5, 6], [7, 8, 9]] := by
  have hrun : (((piecemeal 2).run (udtcpServerPoll 8 0 hearingServer)
      ⟨true, Bytes.frames [[5, 6], [7, 8, 9]], []⟩).map fun o ↦
        decide (o.2.2.delivered = [[5, 6], [7, 8, 9]])) = some true := by
    decide +kernel
  obtain ⟨⟨tr, ⟨result, t'⟩, k'⟩, hrun, hdelivered⟩ := Option.map_eq_some_iff.mp hrun
  obtain ⟨hexec, ha⟩ := ((piecemeal 2).run_eq_some_iff _ _ _ _ _).mp hrun
  have hpass : Repeats (incomingKernel 7) ServerPass hearingServer
      ⟨true, Bytes.frames [[5, 6], [7, 8, 9]], []⟩ t' k' :=
    (Repeats.refl _ _).tail ⟨8, 0, rfl⟩ hexec (ha.mono fun _ _ _ _ ↦ kernel_piecemeal)
  exact ⟨t', k', hpass, of_decide_eq_true hdelivered,
    server_messages_in_order (by simp [Bytes.Framable]) (fun h ↦ absurd h (Nat.lt_irrefl 0)) rfl
      hpass⟩

/-! ### A client -/

namespace Client

variable {fd : Fd} {messages : List (List UInt8)} {t t' : Thread UdtcpClient} {k k' : Incoming}
  {fuel : Nat} {n : Int}

/-- A client that hands messages over, and the connection it is on: all is in order. -/
structure Attends (fd : Fd) (messages : List (List UInt8)) (t : Thread UdtcpClient)
    (k : Incoming) : Prop where
  present : t.self.buffer.Present
  callback : t.self.receiveTcpCallback = true
  sockets : k.isOpen = true →
    t.self.clientInfos.tcpSocket = fd ∧ t.self.serverInfos.tcpSocket = fd
  orderly : k.Orderly messages

-- What a reception leaves behind, and what is left when it breaks off.
private structure Drained (fd : Fd) (messages : List (List UInt8)) (n : Int)
    (t : Thread UdtcpClient) (k : Incoming) : Prop where
  present : t.self.buffer.Present
  callback : t.self.receiveTcpCallback = true
  sockets : k.isOpen = true →
    t.self.clientInfos.tcpSocket = fd ∧ t.self.serverInfos.tcpSocket = fd
  delivered : k.delivered <+: messages
  orderly : 0 < n ∨ n < 0 ∧ t.errno = .ewouldblock → k.Orderly messages

private theorem Drained.attends (h : Drained fd messages n t k)
    (hkept : 0 < n ∨ n < 0 ∧ t.errno = .ewouldblock) : Attends fd messages t k :=
  ⟨h.present, h.callback, h.sockets, h.orderly hkept⟩

private theorem Attends.drained (h : Attends fd messages t k) : Drained fd messages n t k :=
  ⟨h.present, h.callback, h.sockets, h.orderly.delivered, fun _ ↦ h.orderly⟩

private theorem eq_of_quiet {c : Call} {r : c.Reply} (hk : incomingKernel fd k c r k')
    (hquiet : ∀ k k' : Incoming, k.Takes fd k' c r → k' = k) : k' = k := by
  unfold incomingKernel at hk
  split at hk
  · exact hquiet k k' hk
  · exact hk

private theorem Drained.note {α : Type} (h : Drained fd messages n t k) (r : Except Errno α) :
    Drained fd messages 0 (t.note r) k := by
  have hself := t.note_self r
  exact ⟨hself ▸ h.present, hself ▸ h.callback, hself ▸ h.sockets, h.delivered,
    fun hkept ↦ by omega⟩

private theorem must_disconnect_drained (h : Drained fd messages n t k) :
    Must (incomingKernel fd) disconnect t k fun _ t' k' ↦ Attends fd messages t' k' := by
  unfold disconnect
  refine must_self_bind (must_syscall_bind fun r k₁ hshut ↦ ?_)
  obtain rfl := eq_of_quiet hshut fun k k' hk ↦ by cases r <;> exact hk
  have h₁ := h.note r
  generalize t.note r = t₁ at h₁
  refine must_self_bind (must_syscall_bind fun r' k₂ hclose ↦ must_update_bind ?_)
  have h₂ := h₁.note r'
  generalize t₁.note r' = t₂ at h₂
  have hclosed : k₂.isOpen = false ∧ k₂.delivered = k₁.delivered := by
    by_cases hopen : k₁.isOpen = true
    · have hclose := (incomingKernel_open hopen).mp hclose
      have hclose : k₂ = if t₁.self.clientInfos.tcpSocket = fd then { k₁ with isOpen := false }
          else k₁ := by cases r' <;> exact hclose
      rw [if_pos (h₁.sockets hopen).1] at hclose
      rw [hclose]
      exact ⟨rfl, rfl⟩
    · rw [incomingKernel, if_neg hopen] at hclose
      rw [hclose]
      exact ⟨by simpa using hopen, rfl⟩
  have hend : Attends fd messages { t₂ with self := t₂.self.setTcpSocket (-1) } k₂ :=
    ⟨h₂.present, h₂.callback, fun hopen ↦ absurd (hclosed.1.symm.trans hopen) Bool.false_ne_true,
      .of_closed hclosed.1 (hclosed.2 ▸ h₂.delivered)⟩
  refine must_self_bind (must_ite (fun _ ↦ must_issue fun _ k₃ hk ↦ ?_) fun _ ↦ must_pure hend)
  obtain rfl := eq_of_quiet hk fun k k' hk ↦ hk
  exact hend

private theorem must_receiveTcp_drained_client (hmessages : ∀ m ∈ messages, Bytes.Framable m)
    (h : Attends fd messages t k) :
    Must (incomingKernel fd) receiveTcp t k (Drained fd messages) := by
  intro tr n t' k' hrun ha
  have hpresent := (BufferStep.clientTcp hrun).present h.present
  obtain ⟨u, hu, rfl⟩ := exec_receiveTcp.mp hrun
  rw [tcpDeliver, if_pos h.callback] at hu
  by_cases hopen : k.isOpen = true
  · obtain ⟨hclient, hserver⟩ := h.sockets hopen
    rw [hserver] at hu
    obtain ⟨-, -, hdelivered, horderly⟩ := must_receiveTcpWith_incoming
      (fun data ↦ ⟨1, _, rfl, hserver⟩) hmessages h.present hopen h.orderly tr n u k' hu ha
    exact ⟨hpresent, h.callback, fun _ ↦ ⟨hclient, hserver⟩, hdelivered, horderly⟩
  · rw [accepts_incomingKernel_closed hopen ha]
    exact ⟨hpresent, h.callback, h.sockets, h.orderly.delivered, fun _ ↦ h.orderly⟩

private theorem must_receiveUdp_drained (h : Attends fd messages t k) :
    Must (incomingKernel fd) receiveUdp t k fun _ t' k' ↦ Attends fd messages t' k' := by
  intro tr n t' k' hrun ha
  have hpresent := (BufferStep.clientUdp hrun).present h.present
  obtain ⟨u, hu, rfl⟩ := exec_receiveUdp.mp hrun
  have hspares : ∀ e ∈ tr, Spares fd e := by
    refine emits_receiveUdpWith (spares_datagramCalls _) (fun addr f hf data v ↦ ?_) _ _ _ _ _ hu
    unfold udpDeliver at hf
    split at hf
    · cases hf
      exact fun k k' hk ↦ .inl hk
    · cases hf
  refine ⟨hpresent, h.callback, fun hopen ↦ h.sockets ?_, h.orderly.spared hspares ha⟩
  -- a connection that was closed stays closed
  by_contra hclosed
  rw [accepts_incomingKernel_closed hclosed ha] at hopen
  exact hclosed hopen

private theorem maintains_serveSocket {receive : ClientProc Int}
    (hreceive : ∀ t k, Attends fd messages t k →
      Must (incomingKernel fd) receive t k (Drained fd messages)) :
    Maintains (incomingKernel fd) (Attends fd messages) (serveSocket fuel receive) := by
  intro t k h
  unfold serveSocket
  have hleave {n : Int} {t : Thread UdtcpClient} {k : Incoming} (hd : Drained fd messages n t k) :
      Must (incomingKernel fd) (do
        disconnect
        return some UdtcpPoll.error) t k fun _ t' k' ↦ Attends fd messages t' k' :=
    must_bind ((must_disconnect_drained hd).mono fun _ _ _ h' ↦ must_pure h')
  refine must_bind ((must_drain (fun n t k on k' hd hk ↦ ?_) (hreceive t k h)
    fun n t k hd hagain ↦ hreceive t k (hd.attends (.inl (of_decide_eq_true hagain)))).mono ?_)
  · rw [eq_of_quiet hk fun k k' hk ↦ hk]
    exact hd
  · intro n t₁ k₁ hd
    refine must_ite (fun hneg ↦ must_errno_bind (must_ite (fun _ ↦ hleave hd) fun hagain ↦ ?_))
      fun hneg ↦ must_ite (fun _ ↦ hleave hd) fun hzero ↦ ?_
    · exact must_pure (hd.attends (.inr ⟨hneg, not_not.mp hagain⟩))
    · exact must_pure (hd.attends (.inl (by omega)))

private theorem servingRules_attends_client (hmessages : ∀ m ∈ messages, Bytes.Framable m) :
    ServingRules (incomingKernel fd) (Attends fd messages) where
  poll fds timeout t k r k' h hk := by
    obtain rfl := eq_of_quiet hk fun k k' hk ↦ by cases r <;> exact hk.2
    have hself := t.note_self r
    exact ⟨hself ▸ h.present, hself ▸ h.callback, hself ▸ h.sockets, h.orderly⟩
  revents t k revents h := ⟨h.present, h.callback, h.sockets, h.orderly⟩
  flag t k r k' h hk := by
    rw [eq_of_quiet hk fun k k' hk ↦ hk]
    exact h
  serveTcp _ := maintains_serveSocket fun _ _ h ↦ must_receiveTcp_drained_client hmessages h
  serveUdp _ := maintains_serveSocket fun _ _ h ↦ (must_receiveUdp_drained h).mono
    fun _ _ _ h' ↦ h'.drained

end Client

section

variable {fd : Fd} {messages : List (List UInt8)} {t t' : Thread UdtcpClient} {k' : Incoming}

/-- A pass of a client. -/
def ClientPass (p : ClientProc UdtcpPoll) : Prop :=
  ∃ fuel timeout, p = udtcpClientPoll fuel timeout

/-- Passes keep all in order. -/
theorem Client.Attends.repeats {k : Incoming} (h : Client.Attends fd messages t k)
    (hmessages : ∀ m ∈ messages, Bytes.Framable m)
    (hpasses : Repeats (incomingKernel fd) ClientPass t k t' k') :
    Client.Attends fd messages t' k' := by
  refine hpasses.invariant (I := Client.Attends fd messages) ?_ h
  rintro p ⟨fuel, timeout, rfl⟩
  exact (Client.servingRules_attends_client hmessages).maintains_udtcpClientPoll fuel timeout

/-- **A client gets the messages of its server in order**, on the connection its record of the
server names, until it disconnects. -/
theorem client_messages_in_order (hmessages : ∀ m ∈ messages, Bytes.Framable m)
    (hbuffer : t.self.buffer.Present) (hcallback : t.self.receiveTcpCallback = true)
    (hclient : t.self.clientInfos.tcpSocket = fd) (hserver : t.self.serverInfos.tcpSocket = fd)
    (h : Repeats (incomingKernel fd) ClientPass t ⟨true, Bytes.frames messages, []⟩ t' k') :
    k'.Orderly messages := by
  have hstart : Client.Attends fd messages t ⟨true, Bytes.frames messages, []⟩ :=
    ⟨hbuffer, hcallback, fun _ ↦ ⟨hclient, hserver⟩, List.nil_prefix, fun _ ↦ ⟨messages, rfl, rfl⟩⟩
  exact (hstart.repeats hmessages h).orderly

end

/-- A client with its server on socket `7`. -/
def hearingClient : Thread UdtcpClient :=
  ⟨.other 0, { UdtcpClient.zero 0 with
    clientInfos := { UdtcpInfos.zero with tcpSocket := 7 }
    serverInfos := { UdtcpInfos.zero with tcpSocket := 7 }
    pollFds := fun _ ↦ ⟨7, POLLIN, 0⟩
    pollNfds := 1
    receiveTcpCallback := true }⟩

/-- Two messages, which the client gets in three and four pieces in one pass. -/
theorem client_messages_in_order_two : ∃ t' k', Repeats (incomingKernel 7) ClientPass hearingClient
    ⟨true, Bytes.frames [[5, 6], [7, 8, 9]], []⟩ t' k' ∧ k'.delivered = [[5, 6], [7, 8, 9]] ∧
    k'.Orderly [[5, 6], [7, 8, 9]] := by
  have hrun : (((piecemeal 0).run (udtcpClientPoll 8 0 hearingClient)
      ⟨true, Bytes.frames [[5, 6], [7, 8, 9]], []⟩).map fun o ↦
        decide (o.2.2.delivered = [[5, 6], [7, 8, 9]])) = some true := by
    decide +kernel
  obtain ⟨⟨tr, ⟨result, t'⟩, k'⟩, hrun, hdelivered⟩ := Option.map_eq_some_iff.mp hrun
  obtain ⟨hexec, ha⟩ := ((piecemeal 0).run_eq_some_iff _ _ _ _ _).mp hrun
  have hpass : Repeats (incomingKernel 7) ClientPass hearingClient
      ⟨true, Bytes.frames [[5, 6], [7, 8, 9]], []⟩ t' k' :=
    (Repeats.refl _ _).tail ⟨8, 0, rfl⟩ hexec (ha.mono fun _ _ _ _ ↦ kernel_piecemeal)
  have hclient : hearingClient.self.clientInfos.tcpSocket = 7 := rfl
  have hserver : hearingClient.self.serverInfos.tcpSocket = 7 := rfl
  exact ⟨t', k', hpass, of_decide_eq_true hdelivered, client_messages_in_order
    (by simp [Bytes.Framable]) (fun h ↦ absurd h (Nat.lt_irrefl 0)) rfl hclient hserver hpass⟩

end Udtcp
