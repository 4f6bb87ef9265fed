import Udtcp.Server.Accept
import Udtcp.Server.Create

/-!
# Failed accepts

Whether `accept_client` of `server_poll.c:105–195`, when it returns `-1`, leaves the table as it
was and closes the descriptor it was given and no other. The handshake receives the peer's
record over the slot that holds the accepted descriptor, and the failure exits behind it close
what they find there.
-/

namespace Udtcp

open Interaction Routine

section

variable {m : Nat}

/-- The number of entries, the next id and the entries themselves are as they were. -/
structure SameTable (s s' : UdtcpServer m) : Prop where
  pollNfds : s'.pollNfds = s.pollNfds
  countId : s'.countId = s.countId
  pollFds : ∀ i < s.pollNfds, s'.pollFds i = s.pollFds i
  infos : ∀ i < s.pollNfds, s'.infos i = s.infos i

/-- What lies behind the last client is no part of the table. -/
theorem UdtcpServer.Kept.sameTable {s s' : UdtcpServer m} (h : s.Kept s.pollNfds s') :
    SameTable s s' where
  pollNfds := h.pollNfds
  countId := h.countId
  pollFds i _ := congrFun h.pollFds i
  infos := h.infos

/-- **Failed accepts.** From every state and against every peer, an `accept_client` that returns
`-1` leaves the table alone and closes exactly the descriptor it accepted, if any, precisely when
the peer's bytes at the place of `tcp_socket`, as far as there are any, are the first bytes of that
descriptor. -/
theorem accept_failure_atomic_iff {t t' : Thread (UdtcpServer m)} {tr : Trace posix}
    (h : Exec acceptClient t tr (-1) t') :
    (SameTable t.self t'.self ∧ closedFds tr = acceptedFds tr) ↔
      ∀ fd ∈ acceptedFds tr, ∀ bs ∈ receivedRecords tr,
        Bytes.slice bs UdtcpInfos.tcpSocketOffset 4 <+: Bytes.Codec.i32.encode fd := by
  obtain ⟨hkept, hseen⟩ := sightings_acceptClient_failed h
  rw [and_iff_right hkept.sameTable]
  unfold closedFds acceptedFds receivedRecords
  rcases hseen with hseen | ⟨fd, addr, hseen | ⟨r, bs, hfd, -, hseen⟩⟩
  · rw [hseen]
    simp
  · rw [hseen]
    simp
  · have hpatch := r.tcpSocket_patch_eq_iff bs
    rw [hseen]
    simp only [List.filterMap_cons, List.filterMap_nil, List.cons.injEq, and_true,
      List.mem_singleton, forall_eq]
    rw [← hfd]
    exact hpatch

end

/-- A server with room for one client. -/
def roomForOne : Thread (UdtcpServer 1) := ⟨.other 0, .listening 3 4⟩

/-- The calls of accepting descriptor 5 from a peer that sends `bs` in the handshake, when
descriptor `closed` is closed in the end. -/
def failedAccept (bs : {bs : List UInt8 // bs.length ≤ 361}) (closed : Fd) : Trace posix :=
  [⟨.sys (.accept 3), .ok (⟨5, by decide⟩, .zero)⟩, ⟨.sys (.getfl 5), .ok (0 : Nat)⟩,
   ⟨.sys (.setfl 5 O_NONBLOCK), .ok ()⟩,
   ⟨.sys (.send 5 roomForOne.self.serverInfos.encode), .ok ⟨360, by simp⟩⟩,
   ⟨.sys (.poll [⟨5, POLLIN, 0⟩] (-1)), .ok (Vector.replicate 1 POLLIN)⟩,
   ⟨.sys (.recv 5 .record 361), .ok bs⟩, ⟨.sys (.close closed), .ok ()⟩]

/-- The first 284 bytes of a record that names descriptor 5. -/
def namesItself : {bs : List UInt8 // bs.length ≤ 361} :=
  ⟨List.replicate 280 0 ++ [5, 0, 0, 0], by rw [List.length_append, List.length_replicate]; decide⟩

set_option maxRecDepth 20000 in
/-- A peer that breaks off behind the descriptor its connection was accepted on: this one is
closed. -/
theorem accept_failure_atomic_cut_record :
    ∃ t' : Thread (UdtcpServer 1),
      Exec acceptClient roomForOne (failedAccept namesItself 5) (-1) t' ∧
      SameTable roomForOne.self t'.self ∧ closedFds (failedAccept namesItself 5) = [5] ∧
      closedFds (failedAccept namesItself 5) = acceptedFds (failedAccept namesItself 5) := by
  have hrun : ∃ t', Exec acceptClient roomForOne (failedAccept namesItself 5) (-1) t' :=
    ⟨_, _, _, rfl, _, _, rfl, _, _, rfl, _, _, rfl, _, _, rfl, _, _, rfl, _, _, rfl, rfl, rfl⟩
  obtain ⟨t', h⟩ := hrun
  have hfits : ∀ fd ∈ acceptedFds (failedAccept namesItself 5),
      ∀ bs ∈ receivedRecords (failedAccept namesItself 5),
        Bytes.slice bs UdtcpInfos.tcpSocketOffset 4 <+: Bytes.Codec.i32.encode fd := by
    intro fd hfd bs hbs
    obtain rfl : fd = 5 := List.mem_singleton.mp hfd
    obtain rfl : bs = namesItself.val := List.mem_singleton.mp hbs
    decide
  obtain ⟨htable, hclosed⟩ := (accept_failure_atomic_iff h).mpr hfits
  exact ⟨t', h, htable, rfl, hclosed⟩

/-- The first 284 bytes of a record that names descriptor 3. -/
def namesListener : {bs : List UInt8 // bs.length ≤ 361} :=
  ⟨List.replicate 280 0 ++ [3, 0, 0, 0], by rw [List.length_append, List.length_replicate]; decide⟩

set_option maxRecDepth 20000 in
/-- Sent by a peer, they make the server close its own listening socket and keep the connection
open. -/
theorem accept_failure_closes_listener :
    (∃ t', Exec acceptClient roomForOne (failedAccept namesListener 3) (-1) t') ∧
    closedFds (failedAccept namesListener 3) = [roomForOne.self.serverInfos.tcpSocket] ∧
    acceptedFds (failedAccept namesListener 3) = [5] ∧
    closedFds (failedAccept namesListener 3) ≠ acceptedFds (failedAccept namesListener 3) := by
  have hrun : ∃ t', Exec acceptClient roomForOne (failedAccept namesListener 3) (-1) t' :=
    ⟨_, _, _, rfl, _, _, rfl, _, _, rfl, _, _, rfl, _, _, rfl, _, _, rfl, _, _, rfl, rfl, rfl⟩
  have hclosed : closedFds (failedAccept namesListener 3) = [3] := rfl
  have haccepted : acceptedFds (failedAccept namesListener 3) = [5] := rfl
  exact ⟨hrun, rfl, rfl, by rw [hclosed, haccepted]; decide⟩

end Udtcp
