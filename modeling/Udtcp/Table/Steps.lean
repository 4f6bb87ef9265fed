import Udtcp.Receive.Calls
import Udtcp.Server.Calls
import Udtcp.Server.Rounds
import Udtcp.Table.Compact
import Udtcp.Table.Roll

/-!
# The steps of a pass

Everything a pass of `udtcp_server_poll` does to the table is a sequence of three kinds of steps: a
client is admitted, a client is disconnected, and anything else, which leaves the rows alone. What
every step preserves, a pass preserves up to its compaction.
-/

namespace Udtcp

open Interaction Routine

/-- Data handed to the user as that of one slot. -/
def Callback.DataOf (slot : Nat) (infos : UdtcpInfos) : Callback → Prop
  | .receiveTcp k r _ => k = slot ∧ r = infos
  | .receiveUdp k r _ => k = slot ∧ r = infos
  | _ => False

section

variable {m : Nat}

/-- Two servers whose tables are the same but for `revents`. -/
structure TableKept (s s' : UdtcpServer m) : Prop where
  addr : s'.addr = s.addr
  pollNfds : s'.pollNfds = s.pollNfds
  countId : s'.countId = s.countId
  connectCallback : s'.connectCallback = s.connectCallback
  disconnectCallback : s'.disconnectCallback = s.disconnectCallback
  pollFds : ∀ i < s.pollNfds, (s'.pollFds i).fd = (s.pollFds i).fd ∧
    (s'.pollFds i).events = (s.pollFds i).events
  infos : ∀ i < s.pollNfds, s'.infos i = s.infos i

/-- Nothing has changed. -/
theorem TableKept.refl (s : UdtcpServer m) : TableKept s s :=
  ⟨rfl, rfl, rfl, rfl, rfl, fun _ _ ↦ ⟨rfl, rfl⟩, fun _ _ ↦ rfl⟩

/-- The records behind the last client are no part of the table. -/
theorem UdtcpServer.Kept.tableKept {s s' : UdtcpServer m} (h : s.Kept s.pollNfds s') :
    TableKept s s' where
  addr := h.addr
  pollNfds := h.pollNfds
  countId := h.countId
  connectCallback := h.connectCallback
  disconnectCallback := h.disconnectCallback
  pollFds i _ := by rw [h.pollFds]; exact ⟨rfl, rfl⟩
  infos := h.infos

/-- The buffer is not part of the table. -/
theorem tableKept_buffer (s : UdtcpServer m) (b : ReceiveBuffer) :
    TableKept s { s with buffer := b } :=
  ⟨rfl, rfl, rfl, rfl, rfl, fun _ _ ↦ ⟨rfl, rfl⟩, fun _ _ ↦ rfl⟩

/-- Nor is what `poll` reports. -/
theorem tableKept_setRevents (s : UdtcpServer m) (revents : Nat → UInt16) :
    TableKept s (s.setRevents revents) := by
  refine ⟨rfl, rfl, rfl, rfl, rfl, fun i hi ↦ ?_, fun _ _ ↦ rfl⟩
  simp [UdtcpServer.setRevents, hi]

/-- `server_infos` is part of what is kept. -/
theorem TableKept.serverInfos {s s' : UdtcpServer m} (h : TableKept s s')
    (hpos : 0 < s.pollNfds) : s'.serverInfos = s.serverInfos := h.infos 0 hpos

/-- A table that is kept shows the same rows. -/
theorem Table.of_tableKept {w : Watch} {s s' : UdtcpServer m} {rows : List Row}
    (h : Table w s rows) (hk : TableKept s s') : Table w s' rows :=
  h.of_state hk.pollNfds hk.countId hk.pollFds hk.infos

/-- One step of a pass: its calls, and the observer, the server and the rows behind it. -/
inductive RowStep (w : Watch) (s : UdtcpServer m) (rows : List Row) :
    Trace posix → Watch → UdtcpServer m → List Row → Prop
  | idle {tr : Trace posix} {w' : Watch} {s' : UdtcpServer m} (kept : TableKept s s')
      (completed : w'.completed = w.completed)
      (seen : ∀ ρ : Roll, (ρ.after (sightings tr)).present = ρ.present ∧
        (ρ.after (sightings tr)).completed = ρ.completed)
      (heard : ∀ cb ∈ callbacksOf tr, ∃ (k : Nat) (c : Connection), rows[k]? = some ⟨c, false⟩ ∧
        cb.DataOf (2 + k) (s.infos (2 + k))) :
      RowStep w s rows tr w' s' rows
  | enter {fd : Fd} {addr : SockaddrIn} {bs : List UInt8} {name : Option (List UInt8)}
      {r : UdtcpInfos} {handle : Option (Nat × UdtcpInfos)} {tr : Trace posix} {w' : Watch}
      (completed : w'.completed = w.completed + 1) (unmarked : ∀ row ∈ rows, row.gone = false)
      (free : s.pollNfds < pollTableSize m) (whole : bs.length = UdtcpInfos.sizeof)
      (seen : sightings tr = .accepted fd addr :: .record fd bs ::
        entrySightings name s.connectCallback s.pollNfds r)
      (heard : callbacksOf tr = if s.connectCallback then [.connect s.pollNfds r] else [])
      (link : UdtcpInfos.SameLink { handshaken s.serverInfos
        { s.infos s.pollNfds with tcpAddr := addr, tcpSocket := fd } bs with
          send := s.sendAddr s.pollNfds, id := s.countId } r) :
      RowStep w s rows tr w' (s.enter s.pollNfds r)
        (rows ++ [⟨⟨fd, w.completed + 1, handle⟩, false⟩])
  | drop {k : Nat} {c : Connection} {tr : Trace posix} {w' : Watch}
      (completed : w'.completed = w.completed) (row : rows[k]? = some ⟨c, false⟩)
      (seen : sightings tr = [.shut c.fd, .closed c.fd])
      (heard : callbacksOf tr = if s.disconnectCallback then
        [.disconnect (2 + k) (s.infos (2 + k))] else []) :
      RowStep w s rows tr w' (s.modifyPollFd (2 + k) fun p ↦ { p with fd := -1 })
        (rows.set k ⟨c, true⟩)

/-- Any number of steps, through tables. -/
inductive RowSteps (w : Watch) (s : UdtcpServer m) (rows : List Row) :
    Trace posix → Watch → UdtcpServer m → List Row → Prop
  | refl : RowSteps w s rows [] w s rows
  | tail {tr tr' : Trace posix} {w₁ w₂ : Watch} {s₁ s₂ : UdtcpServer m} {rows₁ rows₂ : List Row}
      (h : RowSteps w s rows tr w₁ s₁ rows₁) (before : Table w₁ s₁ rows₁)
      (step : RowStep w₁ s₁ rows₁ tr' w₂ s₂ rows₂) (behind : Table w₂ s₂ rows₂) :
      RowSteps w s rows (tr ++ tr') w₂ s₂ rows₂

namespace RowSteps

variable {w w₁ w₂ : Watch} {s s₁ s₂ : UdtcpServer m} {rows rows₁ rows₂ : List Row}
  {tr tr' : Trace posix}

/-- One step is some steps. -/
theorem single (before : Table w s rows) (step : RowStep w s rows tr w₁ s₁ rows₁)
    (behind : Table w₁ s₁ rows₁) : RowSteps w s rows tr w₁ s₁ rows₁ :=
  RowSteps.refl.tail before step behind

/-- Some steps and then some more. -/
theorem trans (h : RowSteps w s rows tr w₁ s₁ rows₁) (h' : RowSteps w₁ s₁ rows₁ tr' w₂ s₂ rows₂) :
    RowSteps w s rows (tr ++ tr') w₂ s₂ rows₂ := by
  induction h' with
  | refl =>
    rw [List.append_nil]
    exact h
  | tail _ before step behind ih =>
    rw [← List.append_assoc]
    exact ih.tail before step behind

/-- **The rule for passes.** What every step preserves, any number of them preserve. -/
theorem invariant {X : Trace posix → Watch → UdtcpServer m → List Row → Prop} {done : Trace posix}
    (step : ∀ {done tr : Trace posix} {w w' : Watch} {s s' : UdtcpServer m} {rows rows' : List Row},
      Table w s rows → X done w s rows → RowStep w s rows tr w' s' rows' → Table w' s' rows' →
      X (done ++ tr) w' s' rows')
    (h : RowSteps w s rows tr w₁ s₁ rows₁) (start : X done w s rows) :
    X (done ++ tr) w₁ s₁ rows₁ := by
  induction h with
  | refl =>
    rw [List.append_nil]
    exact start
  | tail _ before hstep behind ih =>
    rw [← List.append_assoc]
    exact step before ih hstep behind

end RowSteps

end

end Udtcp
