import Udtcp.Table.Guests

/-!
# Reachable states of a server

The states between two passes of `udtcp_server_poll`, those within a pass behind any slot, and
those between two accepts of one drain loop (`server_poll.c:464–516`).
-/

namespace Udtcp

open Interaction Routine

section

variable {m : Nat}

/-- A slot that holds a client which is not marked. -/
def UdtcpServer.Live (s : UdtcpServer m) (k : Nat) : Prop :=
  2 ≤ k ∧ k < s.pollNfds ∧ (s.pollFds k).fd ≠ -1

/-- The states a server can be in, with the trace so far and what the observer knows. -/
inductive ServerReach (m : Nat) : Trace posix → Thread (UdtcpServer m) → Watch → Prop
  | rest {tr : Trace posix} {t : Thread (UdtcpServer m)} {w : Watch}
      (run : ServerRun m Watch.AnyPass tr t w) : ServerReach m tr t w
  | scan {done tr : Trace posix} {t t' : Thread (UdtcpServer m)} {w w' : Watch} {fuel : Nat}
      {timeout : Int} {i : Nat × Bool} (run : ServerRun m Watch.AnyPass done t w)
      (h : Scanning fuel timeout t tr i t') (ha : tableKernel.Accepts w tr w') :
      ServerReach m (done ++ tr) t' w'
  | accept {done tr tr' : Trace posix} {t t₁ t' : Thread (UdtcpServer m)} {w w₁ w' : Watch}
      {fuel : Nat} {timeout : Int} {i : Nat × Bool} {n : Int}
      (run : ServerRun m Watch.AnyPass done t w)
      (h : Scanning fuel timeout t tr i t₁) (ha : tableKernel.Accepts w tr w₁)
      (hi : i.1 < t₁.self.pollNfds)
      (hfd : (t₁.self.pollFds i.1).fd = t₁.self.serverInfos.tcpSocket)
      (h' : Draining acceptClient (· = 0) t₁ tr' n t') (ha' : tableKernel.Accepts w₁ tr' w') :
      ServerReach m (done ++ (tr ++ ⟨.pollLoop, true⟩ :: tr')) t' w'

variable {t : Thread (UdtcpServer m)} {tr : Trace posix} {w : Watch}

/-- **The invariant of reachable states**: the arrays match some rows, and their records the
roll. -/
theorem ServerReach.guests (h : ServerReach m tr t w) : ∃ rows, Table w t.self rows ∧
    Guests (rollOf (sightings tr)) w t.self rows := by
  cases h with
  | rest run => exact ⟨_, run.table, run.guests⟩
  | scan run h ha =>
    obtain ⟨rows, hscan, hsteps⟩ := run.table.scanning h (accepts_tableKernel.mp ha)
    exact ⟨rows, hscan.table, run.guests.steps hsteps⟩
  | accept run h ha hi hfd h' ha' =>
    obtain ⟨rows, hscan, hsteps⟩ := run.table.scanning h (accepts_tableKernel.mp ha)
    have hfront := hscan.own_slot hi (hfd ▸ hscan.table.listener.2)
    obtain ⟨rows', hscan', hsteps'⟩ := hscan.accepting hfront h' (accepts_tableKernel.mp ha')
    exact ⟨rows', hscan'.table,
      run.guests.steps (hsteps.trans ((hscan.flag true).trans hsteps'))⟩

/-- A slot with a client is a row without a mark. -/
theorem Table.row_of_live {s : UdtcpServer m} {rows : List Row} (h : Table w s rows) {k : Nat}
    (hk : s.Live k) : ∃ i c, k = 2 + i ∧ rows[i]? = some ⟨c, false⟩ := by
  obtain ⟨hlow, hhigh, hfd⟩ := hk
  have hnfds := h.pollNfds
  obtain ⟨i, rfl⟩ : ∃ i, k = 2 + i := ⟨k - 2, by omega⟩
  obtain ⟨⟨c, gone⟩, hrow⟩ : ∃ row, rows[i]? = some row :=
    ⟨_, List.getElem?_eq_getElem (by omega)⟩
  cases gone with
  | true => exact absurd ((h.marked_iff hrow).mpr rfl) hfd
  | false => exact ⟨i, c, rfl, hrow⟩

/-- A live row of the table is a live slot. -/
theorem Table.live_of_row {s : UdtcpServer m} {rows : List Row} (h : Table w s rows) {i : Nat}
    {c : Connection} (hi : rows[i]? = some ⟨c, false⟩) : s.Live (2 + i) := by
  obtain ⟨hlt, -⟩ := List.getElem?_eq_some_iff.mp hi
  have hnfds := h.pollNfds
  refine ⟨Nat.le_add_right 2 i, by omega, fun hfd ↦ ?_⟩
  cases (h.marked_iff hi).mp hfd

end

end Udtcp
