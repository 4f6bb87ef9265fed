import Udtcp.Table.Run

/-!
# The records against the roll

Every client record of the table is that of one client on the roll: what the client sent, at the
address it connected from, with the server's own sockets and the send structure of the seat it was
given. Records keep what they say while they move from slot to slot.
-/

namespace Udtcp

open Interaction Routine

/-- A whole record replaces the one that was there. -/
theorem UdtcpInfos.patch_zero_of_length (r : UdtcpInfos) {bs : List UInt8}
    (hbs : bs.length = UdtcpInfos.sizeof) : r.patch 0 bs = .decode bs := by
  have hlen : (bs.take sizeof).length = r.encode.length := by
    rw [length_encode, List.take_of_length_le (Nat.le_of_eq hbs), hbs, sizeof]
  rw [patch, Nat.sub_zero, Bytes.patch_zero_of_length hlen,
    List.take_of_length_le (Nat.le_of_eq hbs)]

/-- What identifies a client from its handshake on. -/
def Guest.key (g : Guest) : Fd × Nat := (g.fd, g.number)

/-- What identifies a connection from its handshake on. -/
def Connection.key (c : Connection) : Fd × Nat := (c.fd, c.number)

section

variable {m : Nat}

/-- A record is what the server keeps of a client. -/
structure Registered (s : UdtcpServer m) (g : Guest) (r : UdtcpInfos) : Prop where
  tcpSocket : r.tcpSocket = g.fd
  id : r.id = UInt64.ofNat g.number
  send : r.send = s.sendAddr (2 + g.seat)
  tcpAddr : r.tcpAddr = g.hosted g.record.tcpAddr
  udpServerAddr : r.udpServerAddr = g.hosted g.record.udpServerAddr
  udpClientAddr : r.udpClientAddr = g.udpClientAddr
  udpServerSocket : r.udpServerSocket = s.serverInfos.udpClientSocket
  udpClientSocket : r.udpClientSocket = s.serverInfos.udpServerSocket

/-- A registration depends on the address and the record of the server only. -/
theorem Registered.of_server {s s' : UdtcpServer m} {g : Guest} {r : UdtcpInfos}
    (h : Registered s g r) (ha : s'.addr = s.addr) (h₀ : s'.serverInfos = s.serverInfos) :
    Registered s' g r where
  tcpSocket := h.tcpSocket
  id := h.id
  send := by rw [h.send, UdtcpServer.sendAddr, UdtcpServer.sendAddr, ha]
  tcpAddr := h.tcpAddr
  udpServerAddr := h.udpServerAddr
  udpClientAddr := h.udpClientAddr
  udpServerSocket := by rw [h₀]; exact h.udpServerSocket
  udpClientSocket := by rw [h₀]; exact h.udpClientSocket

/-- The record of a client after its handshake is that of a guest in the next seat. -/
theorem registered_of_sameLink {s : UdtcpServer m} {fd : Fd} {addr : SockaddrIn} {bs : List UInt8}
    {n seat : Nat} {r : UdtcpInfos} (hbs : bs.length = UdtcpInfos.sizeof)
    (hid : s.countId = UInt64.ofNat n) (hseat : s.pollNfds = 2 + seat)
    (h : UdtcpInfos.SameLink { handshaken s.serverInfos
      { s.infos s.pollNfds with tcpAddr := addr, tcpSocket := fd } bs with
        send := s.sendAddr s.pollNfds, id := s.countId } r) :
    Registered s ⟨fd, n, addr, .decode bs, seat⟩ r := by
  rw [hid, hseat, handshaken, UdtcpInfos.patch_zero_of_length _ hbs] at h
  exact ⟨h.tcpSocket, h.id, h.send, h.tcpAddr, h.udpServerAddr, h.udpClientAddr,
    h.udpServerSocket, h.udpClientSocket⟩

/-- The server against the roll, slot by slot. -/
structure Guests (ρ : Roll) (w : Watch) (s : UdtcpServer m) (rows : List Row) : Prop where
  keys : ρ.present.map Guest.key = (liveOf rows).map Connection.key
  completed : ρ.completed = w.completed
  seated : ∀ g ∈ ρ.present, g.seat < m
  shown : ∀ (k : Nat) (c : Connection), rows[k]? = some ⟨c, false⟩ → ∃ g ∈ ρ.present,
    g.key = c.key ∧ Registered s g (s.infos (2 + k))

namespace Guests

variable {ρ ρ' : Roll} {w w' : Watch} {s s' : UdtcpServer m} {rows : List Row}

/-- What leaves the rows, the roll and the records alone. -/
theorem of_tableKept (h : Guests ρ w s rows) (ht : Table w s rows) (hk : TableKept s s')
    (hp : ρ'.present = ρ.present) (hn : ρ'.completed = ρ.completed)
    (hc : w'.completed = w.completed) : Guests ρ' w' s' rows where
  keys := by rw [hp]; exact h.keys
  completed := by rw [hn, hc]; exact h.completed
  seated := by rw [hp]; exact h.seated
  shown k c hk' := by
    have hnfds := ht.pollNfds
    obtain ⟨hlt, -⟩ := List.getElem?_eq_some_iff.mp hk'
    obtain ⟨g, hg, hkey, hr⟩ := h.shown k c hk'
    rw [hp, hk.infos _ (by omega)]
    exact ⟨g, hg, hkey, hr.of_server hk.addr (hk.serverInfos (by omega))⟩

private theorem enter (h : Guests ρ w s rows) (ht : Table w s rows) {fd : Fd}
    {addr : SockaddrIn} {bs : List UInt8} {r : UdtcpInfos} {handle : Option (Nat × UdtcpInfos)}
    (hc : w'.completed = w.completed + 1) (hunmarked : ∀ row ∈ rows, row.gone = false)
    (hfree : s.pollNfds < pollTableSize m) (hbs : bs.length = UdtcpInfos.sizeof)
    (hlink : UdtcpInfos.SameLink { handshaken s.serverInfos
      { s.infos s.pollNfds with tcpAddr := addr, tcpSocket := fd } bs with
        send := s.sendAddr s.pollNfds, id := s.countId } r)
    (hp : ρ'.present =
      ρ.present ++ [⟨fd, ρ.completed + 1, addr, .decode bs, ρ.present.length⟩])
    (hn : ρ'.completed = ρ.completed + 1) :
    Guests ρ' w' (s.enter s.pollNfds r)
      (rows ++ [⟨⟨fd, w.completed + 1, handle⟩, false⟩]) := by
  have hnfds := ht.pollNfds
  have hseat : s.pollNfds = 2 + ρ.present.length := by
    have hlive : (liveOf rows).length = rows.length := by
      rw [liveOf, List.filter_eq_self.mpr (fun row hrow ↦ by rw [hunmarked row hrow]; rfl),
        List.length_map]
    have hkeys := congrArg List.length h.keys
    rw [List.length_map, List.length_map] at hkeys
    omega
  have hinfos {i : Nat} (hi : i < s.pollNfds) : (s.enter s.pollNfds r).infos i = s.infos i :=
    Function.update_of_ne (Nat.ne_of_lt hi) _ _
  have hserver : (s.enter s.pollNfds r).serverInfos = s.serverInfos := hinfos (by omega)
  constructor
  case keys =>
    rw [hp, List.map_append, h.keys, liveOf_append, List.map_append, h.completed]
    rfl
  case completed => rw [hn, hc, h.completed]
  case seated =>
    intro g hg
    rw [hp] at hg
    rcases List.mem_append.mp hg with hg | hg
    · exact h.seated g hg
    · rw [List.mem_singleton.mp hg]
      rw [hseat, pollTableSize] at hfree
      dsimp only
      omega
  case shown =>
    intro k c hk
    rw [hp]
    rcases getElem?_append_last hk with hk | ⟨rfl, hrow⟩
    · obtain ⟨hlt, -⟩ := List.getElem?_eq_some_iff.mp hk
      obtain ⟨g, hg, hkey, hr⟩ := h.shown k c hk
      rw [hinfos (by omega)]
      exact ⟨g, List.mem_append_left _ hg, hkey, hr.of_server rfl hserver⟩
    · cases hrow
      refine ⟨_, List.mem_append_right _ (List.mem_singleton_self _), ?_, ?_⟩
      · rw [h.completed]
        rfl
      · have hself : (s.enter s.pollNfds r).infos (2 + rows.length) = r := by
          rw [← hnfds]
          exact Function.update_self _ _ _
        rw [hself]
        exact (registered_of_sameLink hbs (by rw [ht.countId, h.completed]) hseat
          hlink).of_server rfl hserver

private theorem drop (h : Guests ρ w s rows) (ht : Table w s rows) {k : Nat} {c : Connection}
    (hk : rows[k]? = some ⟨c, false⟩) (hc : w'.completed = w.completed)
    (hp : ρ'.present = ρ.present.filter (·.fd ≠ c.fd)) (hn : ρ'.completed = ρ.completed) :
    Guests ρ' w' (s.modifyPollFd (2 + k) fun p ↦ { p with fd := -1 }) (rows.set k ⟨c, true⟩) := by
  have hlive : liveOf (rows.set k ⟨c, true⟩) = (liveOf rows).filter (·.fd ≠ c.fd) := by
    rw [← (ht.drop hk).live, ← ht.live]
    rfl
  have hkeep (p : Fd × Nat → Bool) (l : List Guest) :
      (l.filter (p ∘ Guest.key)).map Guest.key = (l.map Guest.key).filter p := List.filter_map.symm
  constructor
  case keys =>
    rw [hp, hlive]
    have hguests := hkeep (fun key ↦ decide (key.1 ≠ c.fd)) ρ.present
    rw [h.keys, List.filter_map] at hguests
    exact hguests
  case completed => rw [hn, hc, h.completed]
  case seated =>
    intro g hg
    rw [hp] at hg
    exact h.seated g (List.mem_filter.mp hg).1
  case shown =>
    intro j d hj
    have hne : j ≠ k := by
      rintro rfl
      obtain ⟨hlt, -⟩ := List.getElem?_eq_some_iff.mp hk
      rw [List.getElem?_set_self hlt] at hj
      cases hj
    have hmem : d ∈ liveOf (rows.set k ⟨c, true⟩) :=
      List.mem_map_of_mem (List.mem_filter.mpr ⟨List.mem_of_getElem? hj, rfl⟩)
    rw [hlive] at hmem
    have hfd := (List.mem_filter.mp hmem).2
    rw [List.getElem?_set_ne (Ne.symm hne)] at hj
    obtain ⟨g, hg, hkey, hr⟩ := h.shown j d hj
    rw [hp]
    refine ⟨g, List.mem_filter.mpr ⟨hg, ?_⟩, hkey, hr.of_server rfl rfl⟩
    rwa [show g.fd = d.fd from congrArg Prod.fst hkey]

/-- **Every step** of a pass keeps the records those of the clients on the roll. -/
theorem step {tr : Trace posix} {rows' : List Row} (h : Guests ρ w s rows) (ht : Table w s rows)
    (hstep : RowStep w s rows tr w' s' rows') :
    Guests (ρ.after (sightings tr)) w' s' rows' := by
  cases hstep with
  | idle kept completed seen heard =>
    exact h.of_tableKept ht kept (seen ρ).1 (seen ρ).2 completed
  | enter completed unmarked free whole seen heard link =>
    rename_i fd addr bs name r handle
    have hroll : ρ.after (sightings tr) =
        ⟨none, ρ.present ++ [⟨fd, ρ.completed + 1, addr, .decode bs, ρ.present.length⟩],
          ρ.completed + 1⟩ := by
      rw [seen, Roll.after_cons, Roll.after_cons, ρ.see_record fd addr whole, entrySightings]
      cases name <;> cases s.connectCallback <;> rfl
    rw [hroll]
    exact h.enter ht completed unmarked free whole link rfl rfl
  | drop completed row seen heard =>
    refine h.drop ht row completed ?_ ?_
    · rw [seen]
      rfl
    · rw [seen]
      rfl

/-- So do any number of steps. -/
theorem steps {done tr : Trace posix} {rows' : List Row}
    (h : Guests (rollOf (sightings done)) w s rows) (hsteps : RowSteps w s rows tr w' s' rows') :
    Guests (rollOf (sightings (done ++ tr))) w' s' rows' := by
  refine hsteps.invariant (X := fun tr w s rows ↦ Guests (rollOf (sightings tr)) w s rows)
    (fun ht hx hstep _ ↦ ?_) h
  rw [sightings_append, rollOf, Roll.after_append]
  exact hx.step ht hstep

/-- Deleting a marked entry moves the records behind it. -/
theorem removeSlot (h : Guests ρ w s rows) (ht : Table w s rows) {k : Nat} {row : Row}
    (hk : rows[k]? = some row) (hgone : row.gone = true) :
    Guests ρ w (s.removeSlot (2 + k)) (rows.eraseIdx k) := by
  have hnfds := ht.pollNfds
  obtain ⟨hlt, -⟩ := List.getElem?_eq_some_iff.mp hk
  obtain ⟨-, -, hentry⟩ := s.removeSlot_spec (i := 2 + k) (by omega)
  have hlen : (rows.eraseIdx k).length = rows.length - 1 := List.length_eraseIdx_of_lt hlt
  have hserver : (s.removeSlot (2 + k)).serverInfos = s.serverInfos := by
    have hfront := (hentry 0 (by omega)).2
    rwa [if_pos (by omega)] at hfront
  have hlive : liveOf (rows.eraseIdx k) = liveOf rows :=
    congrArg (List.map Row.conn) (unmarked_eraseIdx hk hgone)
  refine ⟨hlive ▸ h.keys, h.completed, h.seated, fun j c hj ↦ ?_⟩
  obtain ⟨hj', -⟩ := List.getElem?_eq_some_iff.mp hj
  rw [List.getElem?_eraseIdx] at hj
  rw [(hentry (2 + j) (by omega)).2]
  split at hj
  · next hjk =>
    rw [if_pos (by omega)]
    obtain ⟨g, hg, hkey, hr⟩ := h.shown j c hj
    exact ⟨g, hg, hkey, hr.of_server (s.removeSlot_addr _) hserver⟩
  · next hjk =>
    rw [if_neg (by omega)]
    obtain ⟨g, hg, hkey, hr⟩ := h.shown (j + 1) c hj
    exact ⟨g, hg, hkey, hr.of_server (s.removeSlot_addr _) hserver⟩

/-- Clients that differ in what no two on the roll share stand in different slots only. -/
theorem apart {α : Type} {f : Guest → α} (h : Guests ρ w s rows) (ht : Table w s rows)
    (hf : ρ.present.Pairwise fun g g' ↦ f g ≠ f g') {j k : Nat} {c d : Connection}
    (hj : rows[j]? = some ⟨c, false⟩) (hk : rows[k]? = some ⟨d, false⟩) (hjk : j < k) :
    ∃ g ∈ ρ.present, ∃ g' ∈ ρ.present, Registered s g (s.infos (2 + j)) ∧
      Registered s g' (s.infos (2 + k)) ∧ f g ≠ f g' := by
  obtain ⟨g, hg, hkey, hr⟩ := h.shown j c hj
  obtain ⟨g', hg', hkey', hr'⟩ := h.shown k d hk
  have : Std.Symm fun g g' ↦ f g ≠ f g' := ⟨fun _ _ hne ↦ hne.symm⟩
  refine ⟨g, hg, g', hg', hr, hr', hf.forall hg hg' ?_⟩
  rintro rfl
  obtain ⟨hj', hrow⟩ := List.getElem?_eq_some_iff.mp hj
  obtain ⟨hk', hrow'⟩ := List.getElem?_eq_some_iff.mp hk
  have hordered := List.pairwise_iff_getElem.mp (List.pairwise_map.mp ht.ordered) j k hj' hk' hjk
  rw [hrow, hrow'] at hordered
  have hnumber : c.number = d.number := congrArg Prod.snd (hkey.symm.trans hkey')
  exact absurd hordered (hnumber ▸ Nat.lt_irrefl _)

end Guests

variable {admits : Watch → Watch → Prop} {t : Thread (UdtcpServer m)} {tr : Trace posix}
  {w : Watch}

/-- **The run invariant of the records.** -/
theorem ServerRun.guests (h : ServerRun m admits tr t w) :
    Guests (rollOf (sightings tr)) w t.self (rowsOf w.live) := by
  induction h with
  | create h ha =>
    obtain ⟨-, hlive, hcompleted⟩ := table_create h ha
    obtain ⟨tcp, udp, other, rest, ⟨⟨name, hrest, -⟩, -⟩, hseen⟩ := exec_udtcpCreateServer h
    rw [hlive, hseen, hrest]
    cases name <;> exact ⟨rfl, hcompleted.symm, nofun, nofun⟩
  | pass run h ha _ ih =>
    refine run.table.pass_invariant (X := fun tr w s rows ↦ Guests (rollOf (sightings tr)) w s rows)
      (fun ht hx hstep _ ↦ ?_) (fun ht hx hk hgone ↦ hx.removeSlot ht hk hgone) ih h ha
    rw [sightings_append, rollOf, Roll.after_append]
    exact hx.step ht hstep
  | configure run connect disconnect tcp udp e ih =>
    exact ⟨ih.keys, ih.completed, ih.seated, fun k c hk ↦ by
      obtain ⟨g, hg, hkey, hr⟩ := ih.shown k c hk
      exact ⟨g, hg, hkey, hr.of_server rfl rfl⟩⟩

end

end Udtcp
