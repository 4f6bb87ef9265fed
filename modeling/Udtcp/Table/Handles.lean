import Udtcp.Table.Run

/-!
# Client handles

The pointer given to the connect callback is the only handle a user has on a client
(`udtcp_send_tcp` and `udtcp_send_udp` of `send.c:61–103` take it). It points at a slot of the
table, and the compaction of `server_poll.c:519–536` moves records between slots.
-/

namespace Udtcp

open Interaction Routine

/-- No client is disconnected in the pass while one that completed its handshake later stays. The
number `n` ranges over the clients live before the pass and those that came in during it. -/
def Watch.InOrder (w w' : Watch) : Prop :=
  ∀ n, (n ∈ w.live.map (·.number) ∨ (w.completed < n ∧ n ≤ w'.completed)) →
    n ∉ w'.live.map (·.number) → ∀ d ∈ w'.live, d.number < n

/-- The rows without a mark keep their places when every marked row is younger than all of them. -/
theorem getElem?_of_liveOf {rows : List Row} (hordered : (numbersOf rows).Pairwise (· < ·))
    (hyounger : ∀ n ∈ numbersOf rows, n ∉ (liveOf rows).map (·.number) →
      ∀ d ∈ liveOf rows, d.number < n) {k : Nat} {c : Connection}
    (hk : (liveOf rows)[k]? = some c) : rows[k]? = some ⟨c, false⟩ := by
  induction rows generalizing k with
  | nil => cases hk
  | cons row rows ih =>
    obtain ⟨d, gone⟩ := row
    obtain ⟨hfirst, hrest⟩ := List.pairwise_cons.mp hordered
    have hlater : ∀ e ∈ liveOf rows, d.number < e.number := by
      intro e he
      obtain ⟨row, hrow, rfl, -⟩ := exists_row_of_mem_liveOf he
      exact hfirst _ (List.mem_map_of_mem hrow)
    cases gone with
    | true =>
      -- a marked first row is older than every other, so no row is left without a mark
      have hmem : c ∈ liveOf rows := List.mem_of_getElem? hk
      have hnot : d.number ∉ (liveOf rows).map (·.number) := by
        intro hd
        obtain ⟨e, he, heq⟩ := List.mem_map.mp hd
        have hlt := hlater e he
        omega
      have hlt := hyounger d.number (List.mem_cons_self ..) hnot c hmem
      have hgt := hlater c hmem
      omega
    | false =>
      cases k with
      | zero =>
        obtain rfl : d = c := Option.some.inj hk
        rfl
      | succ k =>
        refine ih hrest (fun n hn hnot e he ↦ ?_) hk
        refine hyounger n (List.mem_cons_of_mem _ hn) ?_ e (List.mem_cons_of_mem _ he)
        intro hmem
        rcases List.mem_cons.mp hmem with rfl | hmem
        · exact absurd (hfirst _ hn) (Nat.lt_irrefl _)
        · exact hnot hmem

section

variable {m : Nat} {t : Thread (UdtcpServer m)} {tr : Trace posix} {w : Watch}

/-- In a run of passes that keep the order, every client stays in the slot it was handed in. -/
theorem ServerRun.placed (h : ServerRun m Watch.InOrder tr t w) : Placed (rowsOf w.live) := by
  induction h with
  | create h ha =>
    obtain ⟨-, hlive, -⟩ := table_create h ha
    intro k row slot q hk
    rw [hlive] at hk
    cases hk
  | pass run h ha hw ih =>
    obtain ⟨-, rows, hlive, hle, hnumbers, hordered, hplaced⟩ := run.table.pass h ha
    intro k row slot q hk hq
    rw [rowsOf, List.getElem?_map] at hk
    obtain ⟨c, hc, rfl⟩ := Option.map_eq_some_iff.mp hk
    rw [hlive] at hc
    refine hplaced ih k ⟨c, false⟩ slot q (getElem?_of_liveOf hordered ?_ hc) hq
    intro n hn hnot
    rw [hnumbers] at hn
    rw [← hlive] at hnot ⊢
    refine hw n ?_ hnot
    rcases List.mem_append.mp hn with hn | hn
    · exact .inl hn
    · obtain ⟨hlow, hhigh⟩ := List.mem_range'_1.mp hn
      exact .inr ⟨by omega, by omega⟩
  | configure _ _ _ _ _ _ ih => exact ih

/-- What the record a handle points at must still be. -/
structure Designates (q r : UdtcpInfos) : Prop where
  id : q.id = r.id
  tcpSocket : q.tcpSocket = r.tcpSocket
  udpServerAddr : q.udpServerAddr = r.udpServerAddr

end

end Udtcp
