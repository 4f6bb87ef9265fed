import Udtcp.Server.Delete
import Udtcp.Table.Run

/-!
# What the user hears of each client

With its callbacks in place a server tells the user of each client, by its id, that it connected,
then of any amount of data, then that it disconnected, and nothing more. The callbacks come from
`server_poll.c:187–194`, `197–299`, `413–437` and `delete_server.c:60–83`.
-/

namespace Udtcp

open Interaction Routine

namespace Callback

/-- The record a callback is given. -/
def infos : Callback → UdtcpInfos
  | .connect _ r => r
  | .disconnect _ r => r
  | .receiveTcp _ r _ => r
  | .receiveUdp _ r _ => r

private theorem DataOf.isData {slot : Nat} {r : UdtcpInfos} {cb : Callback} (h : cb.DataOf slot r) :
    cb.IsData := by
  cases cb
  case receiveTcp => trivial
  case receiveUdp => trivial
  all_goals exact h.elim

private theorem DataOf.infos_eq {slot : Nat} {r : UdtcpInfos} {cb : Callback}
    (h : cb.DataOf slot r) :
    cb.infos = r := by
  cases cb
  case receiveTcp => exact h.2
  case receiveUdp => exact h.2
  all_goals exact h.elim

end Callback

/-- The callbacks about the client with an id, oldest first. -/
def heardOf (id : UInt64) (tr : Trace posix) : List Callback :=
  (callbacksOf tr).filter (·.infos.id = id)

@[simp] private theorem heardOf_append (id : UInt64) (tr tr' : Trace posix) :
    heardOf id (tr ++ tr') = heardOf id tr ++ heardOf id tr' := by
  rw [heardOf, callbacksOf_append, List.filter_append]
  rfl

private theorem heardOf_eq_nil {id : UInt64} {tr : Trace posix}
    (h : ∀ cb ∈ callbacksOf tr, cb.infos.id ≠ id) : heardOf id tr = [] :=
  List.filter_eq_nil_iff.mpr fun cb hcb ↦ by simpa using h cb hcb

private theorem heardOf_eq_self {id : UInt64} {tr : Trace posix}
    (h : ∀ cb ∈ callbacksOf tr, cb.infos.id = id) : heardOf id tr = callbacksOf tr :=
  List.filter_eq_self.mpr fun cb hcb ↦ by simpa using h cb hcb

/-- The user heard that a client connected, and of any amount of its data. -/
def Announced (cs : List Callback) : Prop :=
  ∃ slot r data, cs = .connect slot r :: data ∧ ∀ cb ∈ data, cb.IsData

/-- The user heard that a client connected, of any amount of its data, and that it disconnected. -/
def Session (cs : List Callback) : Prop :=
  ∃ slot r data slot' r', cs = .connect slot r :: data ++ [.disconnect slot' r'] ∧
    ∀ cb ∈ data, cb.IsData

/-- A session goes on with messages. -/
theorem Announced.data {cs cs' : List Callback} (h : Announced cs)
    (hdata : ∀ cb ∈ cs', cb.IsData) : Announced (cs ++ cs') := by
  obtain ⟨slot, r, data, rfl, hall⟩ := h
  refine ⟨slot, r, data ++ cs', rfl, fun cb hcb ↦ ?_⟩
  rcases List.mem_append.mp hcb with hcb | hcb
  · exact hall cb hcb
  · exact hdata cb hcb

/-- A session ends with a disconnection. -/
theorem Announced.disconnect {cs : List Callback} (h : Announced cs) (slot : Nat)
    (r : UdtcpInfos) : Session (cs ++ [.disconnect slot r]) := by
  obtain ⟨slot', r', data, rfl, hall⟩ := h
  exact ⟨slot', r', data, slot, r, rfl, hall⟩

section

variable {m : Nat} {w w' : Watch} {s s' : UdtcpServer m} {rows rows' : List Row}
  {done tr : Trace posix}

/-- Marking a row takes its connection, and no other, from the live ones. -/
theorem mem_liveOf_set_mark {k : Nat} {c d : Connection}
    (hordered : (numbersOf rows).Pairwise (· < ·)) (hk : rows[k]? = some ⟨c, false⟩) :
    d ∈ liveOf (rows.set k ⟨c, true⟩) ↔ d ∈ liveOf rows ∧ d.number ≠ c.number := by
  obtain ⟨l₁, l₂, rfl, rfl⟩ := exists_append_of_getElem? hk
  rw [numbersOf_append] at hordered
  obtain ⟨-, hright, hcross⟩ := List.pairwise_append.mp hordered
  have hbelow {d : Connection} (hd : d ∈ liveOf l₁) : d.number < c.number := by
    obtain ⟨row, hrow, rfl, -⟩ := exists_row_of_mem_liveOf hd
    exact hcross _ (List.mem_map_of_mem hrow) _ (List.mem_cons_self ..)
  have habove {d : Connection} (hd : d ∈ liveOf l₂) : c.number < d.number := by
    obtain ⟨row, hrow, rfl, -⟩ := exists_row_of_mem_liveOf hd
    exact (List.pairwise_cons.mp hright).1 _ (List.mem_map_of_mem hrow)
  rw [List.set_append_right _ _ (Nat.le_refl _), Nat.sub_self, List.set_cons_zero, liveOf_append,
    liveOf_append, liveOf_cons_gone, liveOf_cons_live]
  simp only [List.mem_append, List.mem_cons]
  constructor
  · rintro (hd | hd)
    · exact ⟨.inl hd, Nat.ne_of_lt (hbelow hd)⟩
    · exact ⟨.inr (.inr hd), Nat.ne_of_gt (habove hd)⟩
  · rintro ⟨hd | rfl | hd, hne⟩
    · exact .inl hd
    · exact absurd rfl hne
    · exact .inr hd

private theorem mem_liveOf_of_getElem? {k : Nat} {c : Connection}
    (hk : rows[k]? = some ⟨c, false⟩) :
    c ∈ liveOf rows :=
  List.mem_map_of_mem (List.mem_filter.mpr ⟨List.mem_of_getElem? hk, rfl⟩)

/-- The id of a client is its number, as long as there are fewer than `2 ^ 64` of them. -/
theorem Table.id_toNat (h : Table w s rows) (hfew : w.completed < 2 ^ 64) {k : Nat}
    {c : Connection} (hk : rows[k]? = some ⟨c, false⟩) :
    (s.infos (2 + k)).id.toNat = c.number := by
  have hshows : Shows (s.pollFds (2 + k)) (s.infos (2 + k)) c := h.entries k _ hk
  have hle := h.bounded c.number (List.mem_map_of_mem (List.mem_of_getElem? hk))
  rw [hshows.id, UInt64.toNat_ofNat_of_lt' (by simp only [UInt64.size]; omega)]

/-- **The invariant of the callbacks**: a client that is there was announced, one that is gone had
its whole session, and of ids not given out yet nothing was heard. -/
structure Sessions (tr : Trace posix) (w : Watch) (s : UdtcpServer m) (rows : List Row) :
    Prop where
  connectCallback : s.connectCallback = true
  disconnectCallback : s.disconnectCallback = true
  positive : ∀ c ∈ liveOf rows, 1 ≤ c.number
  live : ∀ id : UInt64, (∃ c ∈ liveOf rows, c.number = id.toNat) → Announced (heardOf id tr)
  finished : ∀ id : UInt64, 1 ≤ id.toNat → id.toNat ≤ w.completed →
    (∀ c ∈ liveOf rows, c.number ≠ id.toNat) → Session (heardOf id tr)
  silent : ∀ id : UInt64, id.toNat = 0 ∨ w.completed < id.toNat → heardOf id tr = []

namespace Sessions

private theorem idle (h : Sessions done w s rows) (ht : Table w s rows)
    (hfew : w.completed < 2 ^ 64) (hk : TableKept s s') (hc : w'.completed = w.completed)
    (hheard : ∀ cb ∈ callbacksOf tr, ∃ (k : Nat) (c : Connection), rows[k]? = some ⟨c, false⟩ ∧
      cb.DataOf (2 + k) (s.infos (2 + k))) : Sessions (done ++ tr) w' s' rows := by
  have hdata {cb : Callback} (hcb : cb ∈ callbacksOf tr) :
      cb.IsData ∧ ∃ c ∈ liveOf rows, c.number = cb.infos.id.toNat := by
    obtain ⟨k, c, hrow, hdata⟩ := hheard cb hcb
    refine ⟨hdata.isData, c, mem_liveOf_of_getElem? hrow, ?_⟩
    rw [hdata.infos_eq, ht.id_toNat hfew hrow]
  have hnone (id : UInt64) (hid : ∀ c ∈ liveOf rows, c.number ≠ id.toNat) : heardOf id tr = [] := by
    refine heardOf_eq_nil fun cb hcb heq ↦ ?_
    obtain ⟨-, c, hmem, hnumber⟩ := hdata hcb
    exact hid c hmem (by rw [hnumber, heq])
  have hbounded {c : Connection} (hmem : c ∈ liveOf rows) : c.number ≤ w.completed := by
    obtain ⟨row, hrow, rfl, -⟩ := exists_row_of_mem_liveOf hmem
    exact ht.bounded _ (List.mem_map_of_mem hrow)
  refine ⟨hk.connectCallback.trans h.connectCallback,
    hk.disconnectCallback.trans h.disconnectCallback, h.positive, fun id hid ↦ ?_,
    fun id hlow hhigh hid ↦ ?_, fun id hid ↦ ?_⟩
  · rw [heardOf_append]
    exact (h.live id hid).data fun cb hcb ↦ (hdata (List.mem_filter.mp hcb).1).1
  · rw [heardOf_append, hnone id hid, List.append_nil]
    exact h.finished id hlow (hc ▸ hhigh) hid
  · rw [hc] at hid
    rw [heardOf_append, h.silent id hid, List.nil_append]
    refine hnone id fun c hmem heq ↦ ?_
    have hlow := h.positive c hmem
    have hhigh := hbounded hmem
    omega

private theorem enter (h : Sessions done w s rows) (ht : Table w s rows)
    (hfew : w'.completed < 2 ^ 64) (hc : w'.completed = w.completed + 1) {fd : Fd}
    {handle : Option (Nat × UdtcpInfos)} {slot : Nat} {r : UdtcpInfos} (hid : r.id = s.countId)
    (hcb : s'.connectCallback = s.connectCallback)
    (hdcb : s'.disconnectCallback = s.disconnectCallback)
    (hheard : callbacksOf tr = [.connect slot r]) :
    Sessions (done ++ tr) w' s' (rows ++ [⟨⟨fd, w.completed + 1, handle⟩, false⟩]) := by
  have hnumber : r.id.toNat = w.completed + 1 := by
    rw [hid, ht.countId, UInt64.toNat_ofNat_of_lt' (by simp only [UInt64.size]; omega)]
  have hmem {c : Connection} (hc : c ∈ liveOf (rows ++ [⟨⟨fd, w.completed + 1, handle⟩, false⟩])) :
      c ∈ liveOf rows ∨ c.number = w.completed + 1 := by
    rw [liveOf_append] at hc
    rcases List.mem_append.mp hc with hc | hc
    · exact .inl hc
    · rw [List.mem_singleton.mp hc]
      exact .inr rfl
  have hold (id : UInt64) (hne : id.toNat ≠ w.completed + 1) : heardOf id tr = [] := by
    refine heardOf_eq_nil fun cb hmem heq ↦ ?_
    rw [hheard, List.mem_singleton] at hmem
    rw [hmem] at heq
    exact hne (heq ▸ hnumber)
  have hnew (id : UInt64) (heq : id.toNat = w.completed + 1) :
      heardOf id (done ++ tr) = [.connect slot r] := by
    rw [heardOf_append, h.silent id (.inr (by omega)), List.nil_append, ← hheard]
    refine heardOf_eq_self fun cb hmem ↦ ?_
    rw [hheard, List.mem_singleton] at hmem
    rw [hmem]
    exact UInt64.toNat_inj.mp (hnumber.trans heq.symm)
  refine ⟨hcb.trans h.connectCallback, hdcb.trans h.disconnectCallback, fun c hlive ↦ ?_,
    fun id hlive ↦ ?_, fun id hlow hhigh hgone ↦ ?_, fun id hout ↦ ?_⟩
  · rcases hmem hlive with hlive | hnew
    · exact h.positive c hlive
    · omega
  · by_cases heq : id.toNat = w.completed + 1
    · rw [hnew id heq]
      exact ⟨slot, r, [], rfl, nofun⟩
    · obtain ⟨c, hlive, hnumber⟩ := hlive
      rw [heardOf_append, hold id heq, List.append_nil]
      rcases hmem hlive with hlive | hyoung
      · exact h.live id ⟨c, hlive, hnumber⟩
      · exact absurd (hnumber.symm.trans hyoung) heq
  · have hne : id.toNat ≠ w.completed + 1 := by
      have hlast := hgone ⟨fd, w.completed + 1, handle⟩ (by rw [liveOf_append]; simp)
      exact fun heq ↦ hlast heq.symm
    rw [heardOf_append, hold id hne, List.append_nil]
    refine h.finished id hlow (by omega) fun c hlive ↦ hgone c ?_
    rw [liveOf_append]
    exact List.mem_append_left _ hlive
  · rw [hc] at hout
    rw [heardOf_append, hold id (by omega), h.silent id (by omega), List.append_nil]

private theorem drop (h : Sessions done w s rows) (ht : Table w s rows)
    (hfew : w.completed < 2 ^ 64) (hc : w'.completed = w.completed) {k : Nat} {c : Connection}
    (hk : rows[k]? = some ⟨c, false⟩) (hcb : s'.connectCallback = s.connectCallback)
    (hdcb : s'.disconnectCallback = s.disconnectCallback)
    (hheard : callbacksOf tr = [.disconnect (2 + k) (s.infos (2 + k))]) :
    Sessions (done ++ tr) w' s' (rows.set k ⟨c, true⟩) := by
  have hlive : c ∈ liveOf rows := mem_liveOf_of_getElem? hk
  have hnumber := ht.id_toNat hfew hk
  have hmem {d : Connection} := mem_liveOf_set_mark (d := d) ht.ordered hk
  have hother (id : UInt64) (hne : id.toNat ≠ c.number) : heardOf id tr = [] := by
    refine heardOf_eq_nil fun cb hmem heq ↦ ?_
    rw [hheard, List.mem_singleton] at hmem
    rw [hmem] at heq
    exact hne (heq ▸ hnumber)
  have hown (id : UInt64) (heq : id.toNat = c.number) :
      heardOf id tr = [.disconnect (2 + k) (s.infos (2 + k))] := by
    rw [← hheard]
    refine heardOf_eq_self fun cb hmem ↦ ?_
    rw [hheard, List.mem_singleton] at hmem
    rw [hmem]
    exact UInt64.toNat_inj.mp (hnumber.trans heq.symm)
  refine ⟨hcb.trans h.connectCallback, hdcb.trans h.disconnectCallback,
    fun d hd ↦ h.positive d (hmem.mp hd).1, fun id ⟨d, hd, hid⟩ ↦ ?_,
    fun id hlow hhigh hgone ↦ ?_, fun id hout ↦ ?_⟩
  · obtain ⟨hd, hne⟩ := hmem.mp hd
    rw [heardOf_append, hother id (hid ▸ hne), List.append_nil]
    exact h.live id ⟨d, hd, hid⟩
  · rw [heardOf_append]
    by_cases heq : id.toNat = c.number
    · rw [hown id heq]
      exact (h.live id ⟨c, hlive, heq.symm⟩).disconnect _ _
    · rw [hother id heq, List.append_nil]
      refine h.finished id hlow (hc ▸ hhigh) fun d hd hid ↦ hgone d (hmem.mpr ⟨hd, ?_⟩) hid
      exact fun hdc ↦ heq (hid.symm.trans hdc)
  · rw [hc] at hout
    have hne : id.toNat ≠ c.number := by
      have hlow := h.positive c hlive
      have hhigh := ht.bounded c.number (List.mem_map_of_mem (List.mem_of_getElem? hk))
      omega
    rw [heardOf_append, hother id hne, h.silent id hout, List.append_nil]

/-- **Every step** of a pass keeps the callbacks in order. -/
theorem step (h : Sessions done w s rows) (ht : Table w s rows) (hfew : w'.completed < 2 ^ 64)
    (hstep : RowStep w s rows tr w' s' rows') : Sessions (done ++ tr) w' s' rows' := by
  cases hstep with
  | idle kept completed seen heard => exact h.idle ht (completed ▸ hfew) kept completed heard
  | enter completed unmarked free whole seen heard link =>
    rw [if_pos h.connectCallback] at heard
    exact h.enter ht hfew completed link.id rfl rfl heard
  | drop completed row seen heard =>
    rw [if_pos h.disconnectCallback] at heard
    exact h.drop ht (completed ▸ hfew) completed row rfl rfl heard

/-- Deleting a marked entry concerns no client. -/
theorem removeSlot (h : Sessions done w s rows) {k : Nat} {row : Row} (hk : rows[k]? = some row)
    (hgone : row.gone = true) : Sessions done w (s.removeSlot (2 + k)) (rows.eraseIdx k) := by
  have hlive : liveOf (rows.eraseIdx k) = liveOf rows :=
    congrArg (List.map Row.conn) (unmarked_eraseIdx hk hgone)
  exact {
    connectCallback := (s.removeSlot_connectCallback _).trans h.connectCallback
    disconnectCallback := (s.removeSlot_disconnectCallback _).trans h.disconnectCallback
    positive := hlive ▸ h.positive
    live := hlive ▸ h.live
    finished := hlive ▸ h.finished
    silent := h.silent }

end Sessions

/-! ### Whole runs -/

/-- Runs of a server whose connect and disconnect callbacks are set right after its creation, with
the trace so far and what the observer knows. Between two calls `errno` may become anything. -/
inductive CallbackRun (m : Nat) : Trace posix → Thread (UdtcpServer m) → Watch → Prop
  | create {hostname : List UInt8} {tcpPort udpServerPort udpClientPort : UInt16}
      {t t' : Thread (UdtcpServer m)} {tr : Trace posix} {w : Watch}
      (h : Exec (udtcpCreateServer hostname tcpPort udpServerPort udpClientPort) t tr 0 t')
      (ha : tableKernel.Accepts .start tr w) (tcp udp : Bool) :
      CallbackRun m tr ⟨t'.errno, t'.self.withCallbacks true true tcp udp⟩ w
  | pass {fuel : Nat} {timeout : Int} {result : UdtcpPoll} {t t' : Thread (UdtcpServer m)}
      {done tr : Trace posix} {w w' : Watch} (run : CallbackRun m done t w) (e : Errno)
      (h : Exec (udtcpServerPoll fuel timeout) ⟨e, t.self⟩ tr result t')
      (ha : tableKernel.Accepts w tr w') : CallbackRun m (done ++ tr) t' w'

variable {t t' : Thread (UdtcpServer m)}

/-- A run with its callbacks is a run of a server. -/
theorem CallbackRun.serverRun (h : CallbackRun m tr t w) : ServerRun m Watch.AnyPass tr t w := by
  induction h with
  | create h ha tcp udp => exact (ServerRun.create h ha).configure true true tcp udp _
  | @pass fuel timeout result t t' done tr w w' run e h ha ih =>
    have hsame := ih.configure t.self.connectCallback t.self.disconnectCallback
      t.self.receiveTcpCallback t.self.receiveUdpCallback e
    exact hsame.pass h ha trivial

private theorem completed_le {fuel : Nat} {timeout : Int} {result : UdtcpPoll}
    (h : Table w t.self (rowsOf w.live))
    (hexec : Exec (udtcpServerPoll fuel timeout) t tr result t')
    (ha : tableKernel.Accepts w tr w') : w.completed ≤ w'.completed := by
  obtain ⟨-, rows, -, hle, -⟩ := h.pass hexec ha
  exact hle

/-- **The run invariant of the callbacks.** -/
theorem CallbackRun.sessions (h : CallbackRun m tr t w) (hfew : w.completed < 2 ^ 64) :
    Sessions tr w t.self (rowsOf w.live) := by
  induction h with
  | create h ha tcp udp =>
    obtain ⟨-, hlive, hcompleted⟩ := table_create h ha
    have hnone (id : UInt64) := congrArg (List.filter fun cb : Callback ↦ cb.infos.id = id)
      (callbacksOf_udtcpCreateServer h)
    rw [hlive]
    exact ⟨rfl, rfl, nofun, fun id ⟨c, hc, _⟩ ↦ (nomatch hc), fun id hlow hhigh ↦ by omega,
      fun id _ ↦ hnone id⟩
  | @pass fuel timeout result t t' done tr w w' run e h ha ih =>
    have htable := run.serverRun.table
    have hle : w.completed ≤ w'.completed := completed_le (t := ⟨e, t.self⟩) htable h ha
    have hpass := htable.pass_invariant (t := ⟨e, t.self⟩)
      (X := fun tr w s rows ↦ w.completed < 2 ^ 64 → Sessions tr w s rows)
      (fun ht hx hstep _ hfew ↦ ?_) (fun _ hx hk hgone hfew ↦ (hx hfew).removeSlot hk hgone)
      (fun _ ↦ ih (by omega)) h ha
    · exact hpass hfew
    · refine (hx ?_).step ht hfew hstep
      cases hstep <;> omega

private theorem completed_le_accepted {f : Sighting → Option Fd}
    (hf : ∀ fd addr, f (.accepted fd addr) = some fd) {xs : List Sighting} (h : w.Sees xs w') :
    w'.completed + w'.pending.toList.length ≤
      w.completed + w.pending.toList.length + (xs.filterMap f).length := by
  induction xs generalizing w with
  | nil => exact Nat.le_of_eq (by rw [Watch.sees_nil.mp h]; rfl)
  | cons x xs ih =>
    have hrest := ih h.2
    have htail : (xs.filterMap f).length ≤ ((x :: xs).filterMap f).length :=
      ((List.sublist_cons_self x xs).filterMap f).length_le
    cases x
    case accepted fd addr =>
      rw [List.filterMap_cons_some (hf fd addr), List.length_cons]
      have hsee : (w.see (.accepted fd addr)).completed = w.completed ∧
          (w.see (.accepted fd addr)).pending.toList.length = 1 := ⟨rfl, rfl⟩
      omega
    case record fd bs =>
      have hsee : (w.see (.record fd bs)).completed +
          (w.see (.record fd bs)).pending.toList.length ≤
          w.completed + w.pending.toList.length := by
        by_cases hdone : w.pending = some fd ∧ bs.length = UdtcpInfos.sizeof
        · have hsee : w.see (.record fd bs) = w.complete fd := if_pos hdone
          rw [hsee, hdone.1]
          exact Nat.le_refl _
        · have hsee : w.see (.record fd bs) = w := if_neg hdone
          exact Nat.le_of_eq (by rw [hsee])
      omega
    case closed fd =>
      have hsee : (w.see (.closed fd)).completed = w.completed ∧
          (w.see (.closed fd)).pending.toList.length = 0 := ⟨rfl, rfl⟩
      omega
    all_goals exact Nat.le_trans hrest (Nat.add_le_add_left htail _)

/-- What a server run is answered, the observer accepts. -/
theorem ServerRun.accepts {admits : Watch → Watch → Prop} (h : ServerRun m admits tr t w) :
    tableKernel.Accepts .start tr w := by
  induction h with
  | create h ha => exact ha
  | pass _ _ ha _ ih => exact tableKernel.accepts_append.mpr ⟨_, ih, ha⟩
  | configure _ _ _ _ _ _ ih => exact ih

/-- There are no more ids than accepts. -/
theorem ServerRun.completed_le {admits : Watch → Watch → Prop} (h : ServerRun m admits tr t w) :
    w.completed ≤ (acceptedFds tr).length := by
  have hle : w.completed + w.pending.toList.length ≤
      Watch.start.completed + Watch.start.pending.toList.length + (acceptedFds tr).length :=
    completed_le_accepted (fun _ _ ↦ rfl) (accepts_tableKernel.mp h.accepts)
  have hstart : (Watch.start.completed + Watch.start.pending.toList.length) = 0 := rfl
  rw [hstart, Nat.zero_add] at hle
  exact Nat.le_trans (Nat.le_add_right _ _) hle

private theorem filter_eq_singleton {α β : Type} [DecidableEq β] {f : α → β} {l : List α} {a : α}
    (h : (l.map f).Nodup) (ha : a ∈ l) : l.filter (f · = f a) = [a] := by
  obtain ⟨l₁, l₂, rfl⟩ := List.append_of_mem ha
  rw [List.map_append, List.map_cons] at h
  obtain ⟨-, hright, hcross⟩ := List.pairwise_append.mp h
  have hleft : l₁.filter (f · = f a) = [] := by
    refine List.filter_eq_nil_iff.mpr fun b hb ↦ ?_
    simpa using hcross _ (List.mem_map_of_mem hb) _ (List.mem_cons_self ..)
  have hrest : l₂.filter (f · = f a) = [] := by
    refine List.filter_eq_nil_iff.mpr fun b hb ↦ ?_
    simpa using ((List.pairwise_cons.mp hright).1 _ (List.mem_map_of_mem hb)).symm
  rw [List.filter_append, hleft, List.filter_cons_of_pos (by simp), hrest]
  rfl

private theorem heardOf_delete {u : Unit} (ht : Table w t.self (rowsOf w.live))
    (hcb : t.self.disconnectCallback = true) (hfew : w.completed < 2 ^ 64)
    (h : Exec udtcpDeleteServer t tr u t') (id : UInt64) :
    ((∃ c ∈ w.live, c.number = id.toNat) →
      ∃ slot r, heardOf id tr = [.disconnect slot r]) ∧
    ((∀ c ∈ w.live, c.number ≠ id.toNat) → heardOf id tr = []) := by
  have hnfds : t.self.pollNfds = 2 + w.live.length := by
    rw [ht.pollNfds, rowsOf, List.length_map]
  have hrow {k : Nat} (hk : k < w.live.length) :
      (rowsOf w.live)[k]? = some ⟨w.live[k], false⟩ := by
    rw [rowsOf, List.getElem?_map, List.getElem?_eq_getElem hk]
    rfl
  have hall : Server.farewells t.self (List.range' 2 w.live.length) =
      (List.range' 2 w.live.length).map fun i ↦ .disconnect i (t.self.infos i) := by
    refine congrArg _ (List.filter_eq_self.mpr fun i hi ↦ ?_)
    obtain ⟨hlow, hhigh⟩ := List.mem_range'_1.mp hi
    obtain ⟨k, rfl⟩ : ∃ k, i = 2 + k := ⟨i - 2, by omega⟩
    have hk := hrow (k := k) (by omega)
    have hmark := (ht.marked_iff hk).not.mpr (by simp)
    simpa using hmark
  have hheard := callbacksOf_udtcpDeleteServer hcb h
  rw [hnfds, Nat.add_sub_cancel_left, hall] at hheard
  -- the ids of what is heard are the numbers of the clients, in their order
  have hids : (callbacksOf tr).map (·.infos.id.toNat) = w.live.map (·.number) := by
    rw [hheard, List.map_map]
    refine List.ext_getElem (by simp) fun k hk hk' ↦ ?_
    rw [List.length_map] at hk'
    rw [List.getElem_map, List.getElem_map, List.getElem_range', Nat.one_mul]
    exact ht.id_toNat hfew (hrow hk')
  have hnodup : ((callbacksOf tr).map (·.infos.id)).Nodup := by
    have hordered := ht.ordered
    rw [numbersOf_rowsOf, ← hids] at hordered
    refine List.pairwise_map.mpr ((List.pairwise_map.mp hordered).imp fun hlt heq ↦ ?_)
    rw [heq] at hlt
    exact Nat.lt_irrefl _ hlt
  constructor
  · rintro ⟨c, hc, hnumber⟩
    have hmem : c.number ∈ (callbacksOf tr).map (·.infos.id.toNat) := by
      rw [hids]
      exact List.mem_map_of_mem hc
    obtain ⟨cb, hcb, hid⟩ := List.mem_map.mp hmem
    have hid' : cb.infos.id = id := UInt64.toNat_inj.mp (hid.trans hnumber)
    have halone := filter_eq_singleton hnodup hcb
    rw [hid'] at halone
    rw [hheard] at hcb
    obtain ⟨i, -, rfl⟩ := List.mem_map.mp hcb
    exact ⟨i, _, halone⟩
  · intro hgone
    refine heardOf_eq_nil fun cb hcb heq ↦ ?_
    have hmem := List.mem_map_of_mem (f := (·.infos.id.toNat)) hcb
    rw [hids] at hmem
    obtain ⟨c, hc, hnumber⟩ := List.mem_map.mp hmem
    exact hgone c hc (by rw [hnumber, heq])

/-- **Server callbacks.** In every run of a server from its creation to its deletion in which fewer
than `2 ^ 64` connections are accepted, the callbacks about each id that was given out form one
session, and there are none about any other. -/
theorem server_sessions {trd : Trace posix} {e : Errno} {u : Unit} (h : CallbackRun m tr t w)
    (hfew : (acceptedFds tr).length < 2 ^ 64)
    (hdelete : Exec udtcpDeleteServer ⟨e, t.self⟩ trd u t')
    (id : UInt64) :
    (1 ≤ id.toNat ∧ id.toNat ≤ w.completed → Session (heardOf id (tr ++ trd))) ∧
    (¬ (1 ≤ id.toNat ∧ id.toNat ≤ w.completed) → heardOf id (tr ++ trd) = []) := by
  have hcompleted := Nat.lt_of_le_of_lt h.serverRun.completed_le hfew
  have hsessions := h.sessions hcompleted
  have htable := h.serverRun.table
  obtain ⟨hlast, hnone⟩ :=
    heardOf_delete (t := ⟨e, t.self⟩) htable hsessions.disconnectCallback hcompleted hdelete id
  have hlive := hsessions.live id
  have hover := hsessions.finished id
  have hpositive := hsessions.positive
  rw [liveOf_rowsOf] at hlive hover hpositive
  rw [heardOf_append]
  constructor
  · rintro ⟨hlow, hhigh⟩
    by_cases hthere : ∃ c ∈ w.live, c.number = id.toNat
    · obtain ⟨slot, r, hgone⟩ := hlast hthere
      rw [hgone]
      exact (hlive hthere).disconnect slot r
    · have hgone : ∀ c ∈ w.live, c.number ≠ id.toNat := fun c hc heq ↦ hthere ⟨c, hc, heq⟩
      rw [hnone hgone, List.append_nil]
      exact hover hlow hhigh hgone
  · intro hout
    rw [hsessions.silent id (by omega), List.nil_append]
    refine hnone fun c hc heq ↦ hout ⟨heq ▸ hpositive c hc, ?_⟩
    exact heq ▸ h.serverRun.numbered.2 c hc

end

/-- A server whose single client is there until the deletion: its id is the first one. -/
theorem server_sessions_one : ∃ (tr trd : Trace posix), Session (heardOf 1 (tr ++ trd)) := by
  obtain ⟨tr, n, t, h, rfl, hseen⟩ := may_udtcpCreateServer (m := 1) ⟨.other 0, .zero 0⟩
    ⟨3, by decide⟩ ⟨4, by decide⟩ ⟨5, by decide⟩
  have hcreated : CallbackRun 1 tr ⟨t.errno, t.self.withCallbacks true true true true⟩
      ⟨[3, 4, 5], none, [], 0⟩ := by
    refine .create h (accepts_tableKernel.mpr ?_) true true
    rw [hseen]
    exact ⟨trivial, trivial, trivial, rfl⟩
  obtain ⟨tr₁, result, t₁, hpass, ⟨r, hseen₁⟩, -⟩ :=
    hcreated.serverRun.table.may_accept (by decide) rfl
    ⟨6, by decide⟩ .zero length_blankRecord
  obtain ⟨w₁, hsees, -, hcompleted, -⟩ := Watch.sees_accept (w := ⟨[3, 4, 5], none, [], 0⟩)
    (by simp) (by decide : (6 : Fd) ∉ _) (by simp) .zero length_blankRecord 2 r
  have haccepts : tableKernel.Accepts ⟨[3, 4, 5], none, [], 0⟩ tr₁ w₁ := by
    rw [accepts_tableKernel, hseen₁]
    exact hsees
  have hrun := hcreated.pass _ hpass haccepts
  obtain ⟨trd, u, t₂, hdelete, -⟩ := may_udtcpDeleteServer t₁
  have hfew : (acceptedFds (tr ++ tr₁)).length < 2 ^ 64 := by
    rw [acceptedFds, sightings_append, hseen, hseen₁]
    exact (by decide : 1 < 2 ^ 64)
  refine ⟨tr ++ tr₁, trd, (server_sessions hrun hfew hdelete 1).1 ?_⟩
  rw [hcompleted]
  decide

end Udtcp
