import Udtcp.Server.Created
import Udtcp.Server.Possible
import Udtcp.Table.Pass

/-!
# Runs of a server

The table over whole runs: from `udtcp_create_server` through any number of passes of
`udtcp_server_poll`, with the callbacks set as the user likes in between.
-/

namespace Udtcp

open Interaction Routine

/-- Set the callbacks of a server. -/
def UdtcpServer.withCallbacks {m : Nat} (s : UdtcpServer m) (connect disconnect tcp udp : Bool) :
    UdtcpServer m :=
  { s with
    connectCallback := connect
    disconnectCallback := disconnect
    receiveTcpCallback := tcp
    receiveUdpCallback := udp }

/-- Runs of a server, with the trace so far and what the observer knows. `admits` restricts what a
pass may do to the live connections. -/
inductive ServerRun (m : Nat) (admits : Watch → Watch → Prop) :
    Trace posix → Thread (UdtcpServer m) → Watch → Prop
  | create {hostname : List UInt8} {tcpPort udpServerPort udpClientPort : UInt16}
      {t t' : Thread (UdtcpServer m)} {tr : Trace posix} {w : Watch}
      (h : Exec (udtcpCreateServer hostname tcpPort udpServerPort udpClientPort) t tr 0 t')
      (ha : tableKernel.Accepts .start tr w) : ServerRun m admits tr t' w
  | pass {fuel : Nat} {timeout : Int} {result : UdtcpPoll} {t t' : Thread (UdtcpServer m)}
      {done tr : Trace posix} {w w' : Watch} (run : ServerRun m admits done t w)
      (h : Exec (udtcpServerPoll fuel timeout) t tr result t') (ha : tableKernel.Accepts w tr w')
      (hw : admits w w') : ServerRun m admits (done ++ tr) t' w'
  | configure {t : Thread (UdtcpServer m)} {done : Trace posix} {w : Watch}
      (run : ServerRun m admits done t w) (connect disconnect tcp udp : Bool) (e : Errno) :
      ServerRun m admits done ⟨e, t.self.withCallbacks connect disconnect tcp udp⟩ w

/-- No restriction. -/
def Watch.AnyPass (_ _ : Watch) : Prop := True

section

variable {m : Nat} {admits : Watch → Watch → Prop} {t : Thread (UdtcpServer m)} {tr : Trace posix}
  {w : Watch}

/-- A created server has an empty table. -/
theorem table_create {hostname : List UInt8} {p q r : UInt16}
    {t t' : Thread (UdtcpServer m)} (h : Exec (udtcpCreateServer hostname p q r) t tr 0 t')
    (ha : tableKernel.Accepts .start tr w) :
    Table w t'.self [] ∧ w.live = [] ∧ w.completed = 0 := by
  obtain ⟨tcp, udp, other, rest, ⟨⟨name, hrest, hpolls⟩, hcount⟩, hseen⟩ :=
    exec_udtcpCreateServer h
  have hs := accepts_tableKernel.mp ha
  rw [hseen, hrest] at hs
  obtain ⟨-, -, -, hs⟩ := hs
  have hw : w = ⟨[tcp.val, udp.val, other.val], none, [], 0⟩ ∧
      ∀ text, name = some text → NameFits text := by
    cases name with
    | none => exact ⟨hs, fun _ hno ↦ by cases hno⟩
    | some text =>
      obtain ⟨hshort, rfl⟩ := hs
      refine ⟨rfl, fun text' htext ↦ ?_⟩
      cases htext
      exact hshort
  obtain ⟨rfl, hshort⟩ := hw
  have hp := hpolls hshort
  refine ⟨?_, rfl, rfl⟩
  exact {
    pollNfds := hp.pollNfds
    bound := by rw [hp.pollNfds]; exact Nat.le_add_right 2 m
    countId := hcount
    live := rfl
    entries := fun k row hk ↦ by cases hk
    listener := by rw [hp.listener.1, hp.listener.2]; simp
    receiver := by rw [hp.receiver.1, hp.receiver.2]; simp
    apart := by simp
    distinct := List.Pairwise.nil
    ordered := List.Pairwise.nil
    bounded := by simp [numbersOf] }

/-- **The run invariant**: between two passes the table has one row for each live connection. -/
theorem ServerRun.table (h : ServerRun m admits tr t w) : Table w t.self (rowsOf w.live) := by
  induction h with
  | create h ha =>
    obtain ⟨htable, hlive, -⟩ := table_create h ha
    rw [hlive]
    exact htable
  | pass _ h ha _ ih => exact (ih.pass h ha).1
  | configure _ _ _ _ _ _ ih => exact ih.of_state rfl rfl (fun _ _ ↦ ⟨rfl, rfl⟩) fun _ _ ↦ rfl

/-- Live connections stand in the order of their numbers. -/
theorem ServerRun.numbered (h : ServerRun m admits tr t w) : w.live.Pairwise (·.number < ·.number) ∧
    ∀ c ∈ w.live, c.number ≤ w.completed := by
  have hordered := h.table.ordered
  have hbounded := h.table.bounded
  rw [numbersOf_rowsOf] at hordered hbounded
  exact ⟨List.pairwise_map.mp hordered, fun c hc ↦ hbounded _ (List.mem_map_of_mem hc)⟩

/-! ### Runs that can happen -/

/-- A run with an empty table, over any three descriptors. -/
theorem exists_serverRun (admits : Watch → Watch → Prop) (tcp udp other : Descriptor) :
    ∃ (tr : Trace posix) (t : Thread (UdtcpServer m)), ServerRun m admits tr t
      ⟨[tcp.val, udp.val, other.val], none, [], 0⟩ ∧
      sightings tr = [.opened tcp.val, .opened udp.val, .opened other.val] ∧
      t.self.buffer = .empty := by
  obtain ⟨tr, n, t, h, rfl, hseen⟩ :=
    may_udtcpCreateServer ⟨.other 0, .zero 0⟩ tcp udp other (m := m)
  refine ⟨tr, t, .create h (accepts_tableKernel.mpr ?_), hseen, buffer_udtcpCreateServer h⟩
  rw [hseen]
  exact ⟨trivial, trivial, trivial, rfl⟩

/-- A pass in which a connection on descriptor `fd` comes to life and is handed to the user. -/
theorem Table.may_accept (h : Table w t.self (rowsOf w.live)) (hroom : w.live.length < m)
    (hcb : t.self.connectCallback = true) (fd : Descriptor) (addr : SockaddrIn) {bs : List UInt8}
    (hbs : bs.length = UdtcpInfos.sizeof) :
    May (udtcpServerPoll 2 0) t fun tr _ t' ↦ (∃ r, sightings tr = [.accepted fd.val addr,
      .record fd.val bs, .connected (2 + w.live.length) r]) ∧ t'.self.buffer = t.self.buffer := by
  have hnfds : t.self.pollNfds = 2 + w.live.length :=
    h.pollNfds.trans (by rw [rowsOf, List.length_map])
  refine may_udtcpServerPoll (Q := fun xs b ↦ (∃ r, xs = [.accepted fd.val addr,
    .record fd.val bs, .connected (2 + w.live.length) r]) ∧ b = t.self.buffer)
    (show 0 < t.self.pollNfds by omega) ?_
  have hentry : (t.self.setRevents (onlyReady 0)).pollFds 0 =
      { t.self.pollFds 0 with revents := POLLIN } := if_pos (by omega)
  unfold serveSlot
  refine may_self_bind (may_if_neg ?_ (may_if_neg ?_ (may_if_pos ?_ (may_bind (may_drain 1 _ ?_)))))
  · rw [hentry]
    exact (by decide : ¬ POLLIN = 0)
  · rw [hentry]
    exact (by decide : ¬ POLLIN &&& POLLIN = 0)
  · rw [hentry]
    exact h.listener.1
  · have hfree : (t.self.setRevents (onlyReady 0)).pollNfds < pollTableSize m := by
      change t.self.pollNfds < 2 + m
      omega
    have hpos : 0 < (t.self.setRevents (onlyReady 0)).pollNfds := by
      change 0 < t.self.pollNfds
      omega
    obtain ⟨tr, n, t', hrun, -, -, key, r, htr⟩ := may_acceptClient
      (t := ⟨t.errno, t.self.setRevents (onlyReady 0)⟩) hpos hfree fd addr bs hbs
    have hbuffer : t'.self.buffer = t.self.buffer :=
      Maintains.exec (I := fun u : Thread (UdtcpServer m) ↦ u.self.buffer = t.self.buffer)
        (fun _ ↦ keeps_acceptClient fun _ _ hb _ hkept ↦ hb.trans hkept) hrun rfl
    refine ⟨tr, n, t', hrun, may_pure ⟨⟨r, ?_⟩, hbuffer⟩⟩
    have hcb' : (t.self.setRevents (onlyReady 0)).connectCallback = true := hcb
    rw [List.append_nil, sightings_append, htr, sightings_acceptCalls, ← hnfds, hcb']
    rfl

/-- What the observer knows behind it. -/
theorem Watch.sees_accept (h : ∀ c ∈ w.live, c.number ≤ w.completed) {fd : Fd} (hown : fd ∉ w.own)
    (hlive : ∀ c ∈ w.live, c.fd ≠ fd) (addr : SockaddrIn) {bs : List UInt8}
    (hbs : bs.length = UdtcpInfos.sizeof) (slot : Nat) (r : UdtcpInfos) :
    ∃ w', w.Sees [.accepted fd addr, .record fd bs, .connected slot r] w' ∧ w'.own = w.own ∧
      w'.completed = w.completed + 1 ∧
      w'.live = w.live ++ [⟨fd, w.completed + 1, some (slot, r)⟩] := by
  have hrecord : (w.see (.accepted fd addr)).see (.record fd bs) =
      ({ w with pending := some fd } : Watch).complete fd := if_pos ⟨rfl, hbs⟩
  refine ⟨(({ w with pending := some fd } : Watch).complete fd).hand slot r,
    ⟨⟨hown, hlive⟩, trivial, trivial, by rw [hrecord]; rfl⟩, rfl, rfl, ?_⟩
  exact Watch.live_hand_complete (w := { w with pending := some fd }) h fd slot r

/-- Another client can come in while there is room. -/
theorem ServerRun.exists_accept (h : ServerRun m admits tr t w) (hroom : w.live.length < m)
    (fd : Descriptor) (hown : fd.val ∉ w.own) (hlive : ∀ c ∈ w.live, c.fd ≠ fd.val)
    (addr : SockaddrIn) {bs : List UInt8} (hbs : bs.length = UdtcpInfos.sizeof)
    (hadmits : ∀ w' r, w'.completed = w.completed + 1 →
      w'.live = w.live ++ [⟨fd.val, w.completed + 1, some (2 + w.live.length, r)⟩] →
      admits w w') :
    ∃ tr' t' w' r, ServerRun m admits (tr ++ tr') t' w' ∧ w'.own = w.own ∧
      w'.completed = w.completed + 1 ∧
      w'.live = w.live ++ [⟨fd.val, w.completed + 1, some (2 + w.live.length, r)⟩] ∧
      sightings tr' = [.accepted fd.val addr, .record fd.val bs,
        .connected (2 + w.live.length) r] ∧ t'.self.buffer = t.self.buffer := by
  have hrun := h.configure true false false false (.other 0)
  obtain ⟨tr', result, t', hpass, ⟨r, hseen⟩, hbuffer⟩ :=
    hrun.table.may_accept hroom rfl fd addr hbs
  obtain ⟨w', hsees, hown', hcompleted, hlive'⟩ := Watch.sees_accept h.numbered.2 hown hlive
    addr hbs (2 + w.live.length) r
  rw [← hseen] at hsees
  exact ⟨tr', t', w', r, hrun.pass hpass (accepts_tableKernel.mpr hsees)
    (hadmits _ r hcompleted hlive'), hown', hcompleted, hlive', hseen, hbuffer⟩

/-- A pass in which a live connection is closed by its peer. -/
theorem ServerRun.exists_drop_pass (h : ServerRun m Watch.AnyPass tr t w) {k : Nat} {c : Connection}
    (hk : w.live[k]? = some c) :
    ∃ tr' result t' w', Exec (udtcpServerPoll (2 + k + 2) 0) t tr' result t' ∧
      tableKernel.Accepts w tr' w' ∧ w'.own = w.own ∧
      w'.completed = w.completed ∧ w'.live = w.live.filter (·.fd ≠ c.fd) ∧
      sightings tr' = [.shut c.fd, .closed c.fd] := by
  have htable := h.table
  obtain ⟨hlt, -⟩ := List.getElem?_eq_some_iff.mp hk
  have hnfds : t.self.pollNfds = 2 + w.live.length :=
    htable.pollNfds.trans (by rw [rowsOf, List.length_map])
  have hslot : 2 + k < t.self.pollNfds := by omega
  have hshows : Shows (t.self.pollFds (2 + k)) (t.self.infos (2 + k)) c :=
    htable.entries k ⟨c, false⟩ (by rw [rowsOf, List.getElem?_map, hk]; rfl)
  have hown := (htable.apart c (List.mem_of_getElem? hk)).2
  have hserve : May (serveSlot (2 + k + 2) (2 + k)) ⟨t.errno, t.self.setRevents (onlyReady (2 + k))⟩
      fun tr _ _ ↦ sightings tr = [.shut c.fd, .closed c.fd] := by
    have hentry : (t.self.setRevents (onlyReady (2 + k))).pollFds (2 + k) =
        { t.self.pollFds (2 + k) with revents := POLLIN } := by
      simp [UdtcpServer.setRevents, hslot, onlyReady]
    unfold serveSlot
    refine may_self_bind (may_if_neg ?_ (may_if_neg ?_ (may_if_neg ?_ (may_if_neg ?_ ?_))))
    · rw [hentry]
      exact (by decide : ¬ POLLIN = 0)
    · rw [hentry]
      exact (by decide : ¬ POLLIN &&& POLLIN = 0)
    · rw [hentry]
      exact fun heq ↦ hown (hshows.fd.symm.trans heq ▸ htable.listener.2)
    · rw [hentry]
      exact fun heq ↦ hown (hshows.fd.symm.trans heq ▸ htable.receiver.2)
    · refine (may_serveClient _ (2 + k + 1) (2 + k)).mono ?_
      rintro tr - - ⟨-, -, hseen⟩
      rw [hseen, ← hshows.tcpSocket]
      rfl
  obtain ⟨tr', result, t', hpass, hseen⟩ := may_udtcpServerPoll
    (Q := fun xs _ ↦ xs = [.shut c.fd, .closed c.fd]) hslot hserve
  have hsees : w.Sees (sightings tr') { w.drop c.fd with pending := none } := by
    rw [hseen]
    exact ⟨trivial, trivial, rfl⟩
  exact ⟨tr', result, t', _, hpass, accepts_tableKernel.mpr hsees, rfl, rfl, rfl, hseen⟩

private theorem ServerRun.exists_drop (h : ServerRun m Watch.AnyPass tr t w) {k : Nat}
    {c : Connection}
    (hk : w.live[k]? = some c) :
    ∃ tr' t' w', ServerRun m Watch.AnyPass (tr ++ tr') t' w' ∧ w'.own = w.own ∧
      w'.completed = w.completed ∧ w'.live = w.live.filter (·.fd ≠ c.fd) ∧
      sightings tr' = [.shut c.fd, .closed c.fd] := by
  obtain ⟨tr', result, t', w', hpass, ha, hknown⟩ := h.exists_drop_pass hk
  exact ⟨tr', t', w', h.pass hpass ha trivial, hknown⟩

/-- Two clients, one after the other, from any addresses and with any records. -/
theorem exists_two_clients (addr₁ addr₂ : SockaddrIn) {bs₁ bs₂ : List UInt8}
    (hbs₁ : bs₁.length = UdtcpInfos.sizeof) (hbs₂ : bs₂.length = UdtcpInfos.sizeof) :
    ∃ (tr : Trace posix) (t : Thread (UdtcpServer 2)) (w : Watch) (r₁ r₂ : UdtcpInfos),
      ServerRun 2 Watch.AnyPass tr t w ∧ w.own = [3, 4, 5] ∧
      w.completed = 2 ∧ w.live = [⟨6, 1, some (2, r₁)⟩, ⟨7, 2, some (3, r₂)⟩] ∧
      sightings tr = [.opened 3, .opened 4, .opened 5,
        .accepted 6 addr₁, .record 6 bs₁, .connected 2 r₁,
        .accepted 7 addr₂, .record 7 bs₂, .connected 3 r₂] ∧ t.self.buffer = .empty := by
  obtain ⟨tr, t, h, hseen, hbuffer⟩ :=
    exists_serverRun (m := 2) Watch.AnyPass ⟨3, by decide⟩ ⟨4, by decide⟩ ⟨5, by decide⟩
  obtain ⟨tr₁, t₁, w₁, r₁, h₁, hown₁, hn₁, hlive₁, hseen₁, hbuffer₁⟩ :=
    h.exists_accept (by decide) ⟨6, by decide⟩ (by decide) (by simp) addr₁ hbs₁
      fun _ _ _ _ ↦ trivial
  obtain ⟨tr₂, t₂, w₂, r₂, h₂, hown₂, hn₂, hlive₂, hseen₂, hbuffer₂⟩ :=
    h₁.exists_accept (by rw [hlive₁]; exact (by decide : 1 < 2)) ⟨7, by decide⟩
      (by rw [hown₁]; decide) (by rw [hlive₁]; simp) addr₂ hbs₂
      fun _ _ _ _ ↦ trivial
  rw [hlive₁, hn₁] at hlive₂
  rw [hlive₁] at hseen₂
  refine ⟨_, t₂, w₂, r₁, r₂, h₂, by rw [hown₂, hown₁], by rw [hn₂, hn₁], hlive₂, ?_,
    hbuffer₂.trans (hbuffer₁.trans hbuffer)⟩
  rw [sightings_append, sightings_append, hseen, hseen₁, hseen₂]
  rfl

/-- Two clients, of which the first leaves, and then a third: the third is entered in the slot the
second came in. -/
theorem exists_third_client : ∃ (tr : Trace posix) (t : Thread (UdtcpServer 2)) (w : Watch)
    (r₁ r₂ r₃ : UdtcpInfos), ServerRun 2 Watch.AnyPass tr t w ∧
      w.live = [⟨7, 2, some (3, r₂)⟩, ⟨6, 3, some (3, r₃)⟩] ∧
      sightings tr = [.opened 3, .opened 4, .opened 5,
        .accepted 6 .zero, .record 6 blankRecord.val, .connected 2 r₁,
        .accepted 7 .zero, .record 7 blankRecord.val, .connected 3 r₂,
        .shut 6, .closed 6,
        .accepted 6 .zero, .record 6 blankRecord.val, .connected 3 r₃] := by
  obtain ⟨tr, t, w, r₁, r₂, h, hown, hn, hlive, hseen, -⟩ :=
    exists_two_clients .zero .zero length_blankRecord length_blankRecord
  obtain ⟨tr₃, t₃, w₃, h₃, hown₃, hn₃, hlive₃, hseen₃⟩ :=
    h.exists_drop (k := 0) (by rw [hlive]; rfl)
  rw [hlive] at hlive₃
  have hleft : w₃.live = [⟨7, 2, some (3, r₂)⟩] := hlive₃
  obtain ⟨tr₄, t₄, w₄, r₄, h₄, -, hn₄, hlive₄, hseen₄, -⟩ :=
    h₃.exists_accept (by rw [hleft]; exact (by decide : 1 < 2)) ⟨6, by decide⟩
      (by rw [hown₃, hown]; decide) (by rw [hleft]; simp) .zero length_blankRecord
      fun _ _ _ _ ↦ trivial
  rw [hleft, hn₃, hn] at hlive₄
  rw [hleft] at hseen₄
  refine ⟨_, t₄, w₄, r₁, r₂, r₄, h₄, hlive₄, ?_⟩
  rw [sightings_append, sightings_append, hseen, hseen₃, hseen₄]
  rfl

/-- The table shows exactly the live connections, in the order of their handshakes: `poll_nfds`
counts them behind the server's two entries and fits the arrays, every entry and record is that of
its connection, no two share a descriptor, and the ids grow from slot to slot and stay below the
next one. -/
structure ShowsLive (w : Watch) (s : UdtcpServer m) : Prop where
  pollNfds : s.pollNfds = 2 + w.live.length
  bounds : 2 ≤ s.pollNfds ∧ s.pollNfds ≤ pollTableSize m
  slots : ∀ (k : Nat) (c : Connection), w.live[k]? = some c →
    (s.pollFds (2 + k)).fd = c.fd ∧ (s.infos (2 + k)).tcpSocket = c.fd ∧ c.fd ≠ -1 ∧
      (s.pollFds (2 + k)).events = POLLIN ∧ (s.infos (2 + k)).id.toNat = c.number
  once : w.live.Pairwise fun c d ↦ c.fd ≠ d.fd ∧ c.number < d.number
  ids : ∀ j k, 2 ≤ j → j < k → k < s.pollNfds → (s.infos j).id < (s.infos k).id
  fresh : ∀ k, 2 ≤ k → k < s.pollNfds → (s.infos k).id < s.countId

/-- **The server table.** In every run in which fewer than `2 ^ 64 - 1` handshakes are completed,
the table shows exactly the live connections at the end of each pass. -/
theorem server_table_shows_live (h : ServerRun m Watch.AnyPass tr t w)
    (hfew : w.completed + 1 < 2 ^ 64) : ShowsLive w t.self := by
  have htable := h.table
  obtain ⟨hordered, hbounded⟩ := h.numbered
  have hnfds : t.self.pollNfds = 2 + w.live.length := by
    rw [htable.pollNfds, rowsOf, List.length_map]
  have hslot {k : Nat} {c : Connection} (hk : w.live[k]? = some c) :
      Shows (t.self.pollFds (2 + k)) (t.self.infos (2 + k)) c :=
    htable.entries k ⟨c, false⟩ (by rw [rowsOf, List.getElem?_map, hk]; rfl)
  have hid {k : Nat} {c : Connection} (hk : w.live[k]? = some c) :
      (t.self.infos (2 + k)).id.toNat = c.number := by
    have hle := hbounded c (List.mem_of_getElem? hk)
    rw [(hslot hk).id, UInt64.toNat_ofNat_of_lt' (by simp only [UInt64.size]; omega)]
  have hrow {j : Nat} (hj : 2 ≤ j) (hlt : j < t.self.pollNfds) :
      ∃ k c, j = 2 + k ∧ w.live[k]? = some c :=
    ⟨j - 2, _, by omega, List.getElem?_eq_getElem (by omega)⟩
  refine ⟨hnfds, ⟨by omega, htable.bound⟩, fun k c hk ↦ ?_, ?_, fun j k hj hjk hk ↦ ?_,
    fun k hk hlt ↦ ?_⟩
  · have hfd := (htable.apart c (List.mem_of_getElem? hk)).1
    refine ⟨(hslot hk).fd, (hslot hk).tcpSocket, ?_, (hslot hk).events, hid hk⟩
    rintro heq
    rw [heq] at hfd
    exact absurd hfd (by decide)
  · exact htable.distinct.and hordered
  · obtain ⟨a, c, rfl, hc⟩ := hrow hj (by omega)
    obtain ⟨b, d, rfl, hd⟩ := hrow (by omega) hk
    rw [UInt64.lt_iff_toNat_lt, hid hc, hid hd]
    obtain ⟨ha, rfl⟩ := List.getElem?_eq_some_iff.mp hc
    obtain ⟨hb, rfl⟩ := List.getElem?_eq_some_iff.mp hd
    exact List.pairwise_iff_getElem.mp hordered a b ha hb (by omega)
  · obtain ⟨a, c, rfl, hc⟩ := hrow hk hlt
    have hle := hbounded c (List.mem_of_getElem? hc)
    rw [UInt64.lt_iff_toNat_lt, hid hc, htable.countId,
      UInt64.toNat_ofNat_of_lt' (by simp only [UInt64.size]; omega)]
    omega

/-- A server with one client. -/
theorem server_table_shows_one : ∃ (t : Thread (UdtcpServer 1)) (w : Watch),
    w.live.length = 1 ∧ ShowsLive w t.self := by
  obtain ⟨tr, t, h, -⟩ :=
    exists_serverRun (m := 1) Watch.AnyPass ⟨3, by decide⟩ ⟨4, by decide⟩ ⟨5, by decide⟩
  obtain ⟨tr₁, t₁, w₁, r, h₁, -, hcompleted, hlive, -⟩ :=
    h.exists_accept (by decide) ⟨6, by decide⟩ (by decide) (by simp) .zero length_blankRecord
      fun _ _ _ _ ↦ trivial
  refine ⟨t₁, w₁, by rw [hlive]; rfl, server_table_shows_live h₁ ?_⟩
  rw [hcompleted]
  decide

private theorem exists_rounds (n : Nat) : ∃ tr t w, ServerRun 1 Watch.AnyPass tr t w ∧
    w.own = [3, 4, 5] ∧ w.live = [] ∧ w.completed = n ∧ (acceptedFds tr).length = n := by
  induction n with
  | zero =>
    obtain ⟨tr, t, h, hseen, -⟩ :=
      exists_serverRun (m := 1) Watch.AnyPass ⟨3, by decide⟩ ⟨4, by decide⟩ ⟨5, by decide⟩
    exact ⟨tr, t, _, h, rfl, rfl, rfl, by rw [acceptedFds, hseen]; rfl⟩
  | succ n ih =>
    obtain ⟨tr, t, w, h, hown, hlive, hcompleted, hlen⟩ := ih
    obtain ⟨tr₁, t₁, w₁, r, h₁, hown₁, hcompleted₁, hlive₁, hseen₁, -⟩ :=
      h.exists_accept (by rw [hlive]; decide) ⟨6, by decide⟩ (by rw [hown]; decide)
        (by rw [hlive]; simp) .zero length_blankRecord fun _ _ _ _ ↦ trivial
    rw [hlive, List.nil_append] at hlive₁
    obtain ⟨tr₂, t₂, w₂, h₂, hown₂, hcompleted₂, hlive₂, hseen₂⟩ :=
      h₁.exists_drop (k := 0) (by rw [hlive₁]; rfl)
    refine ⟨_, t₂, w₂, h₂, by rw [hown₂, hown₁, hown], ?_, ?_, ?_⟩
    · rw [hlive₂, hlive₁]
      rfl
    · rw [hcompleted₂, hcompleted₁, hcompleted]
    · have ha₁ : acceptedFds tr₁ = [6] := by
        rw [acceptedFds, hseen₁]
        rfl
      have ha₂ : acceptedFds tr₂ = [] := by
        rw [acceptedFds, hseen₂]
        rfl
      rw [acceptedFds_append, acceptedFds_append, ha₁, ha₂]
      simp [hlen]

/-- With one completed handshake fewer than `2 ^ 64` the next id is zero again, and no id is below
it. -/
theorem server_ids_wrap : ∃ tr t w, ServerRun 1 Watch.AnyPass tr t w ∧
    (acceptedFds tr).length < 2 ^ 64 ∧ ¬ ShowsLive w t.self := by
  obtain ⟨tr, t, w, h, hown, hlive, hcompleted, hlen⟩ := exists_rounds (2 ^ 64 - 2)
  obtain ⟨tr₁, t₁, w₁, r, h₁, -, hcompleted₁, hlive₁, hseen₁, -⟩ :=
    h.exists_accept (by rw [hlive]; decide) ⟨6, by decide⟩ (by rw [hown]; decide)
      (by rw [hlive]; simp) .zero length_blankRecord fun _ _ _ _ ↦ trivial
  rw [hlive, List.nil_append] at hlive₁
  refine ⟨_, t₁, w₁, h₁, ?_, fun hshows ↦ ?_⟩
  · have ha₁ : acceptedFds tr₁ = [6] := by
      rw [acceptedFds, hseen₁]
      rfl
    rw [acceptedFds_append, List.length_append, hlen, ha₁]
    decide
  · have hcount : t₁.self.countId = 0 := by
      rw [h₁.table.countId, hcompleted₁, hcompleted]
      decide
    have hnfds := hshows.pollNfds
    rw [hlive₁] at hnfds
    have hlt := hshows.fresh 2 (Nat.le_refl 2) (by rw [hnfds]; exact Nat.lt_succ_self 2)
    rw [hcount] at hlt
    exact absurd hlt (by rw [UInt64.lt_iff_toNat_lt]; exact Nat.not_lt_zero _)

end

end Udtcp
