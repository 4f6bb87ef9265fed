import Udtcp.Server.Accept
import Udtcp.Table.Watch

/-!
# The table against the live connections

What the two arrays of the server have to do with the connections an observer counts as live.
During a pass a slot may be marked and wait for the compaction, so the arrays are related to rows
that carry the mark; the rows without it are the live connections.
-/

namespace Udtcp

open Interaction Routine

/-- A slot behind the two of the server: its connection, and whether it is marked. -/
structure Row where
  conn : Connection
  gone : Bool

/-- The connections of the rows that are not marked. -/
def liveOf (rows : List Row) : List Connection := (rows.filter (!·.gone)).map (·.conn)

/-- The numbers of all rows, marked or not. -/
def numbersOf (rows : List Row) : List Nat := rows.map (·.conn.number)

@[simp] private theorem liveOf_nil : liveOf [] = [] := rfl

/-- The live connections of two parts of the table. -/
@[simp] theorem liveOf_append (rows rows' : List Row) :
    liveOf (rows ++ rows') = liveOf rows ++ liveOf rows' := by
  simp [liveOf]

/-- A live row in front. -/
@[simp] theorem liveOf_cons_live (c : Connection) (rows : List Row) :
    liveOf (⟨c, false⟩ :: rows) = c :: liveOf rows := rfl

/-- A marked row in front. -/
@[simp] theorem liveOf_cons_gone (c : Connection) (rows : List Row) :
    liveOf (⟨c, true⟩ :: rows) = liveOf rows := rfl

/-- The numbers of two parts of the table. -/
@[simp] theorem numbersOf_append (rows rows' : List Row) :
    numbersOf (rows ++ rows') = numbersOf rows ++ numbersOf rows' := List.map_append

/-- A row of a table with one more row. -/
theorem getElem?_append_last {rows : List Row} {last row : Row} {k : Nat}
    (h : (rows ++ [last])[k]? = some row) :
    rows[k]? = some row ∨ (k = rows.length ∧ last = row) := by
  by_cases hlt : k < rows.length
  · rw [List.getElem?_append_left hlt] at h
    exact .inl h
  · rw [List.getElem?_append_right (by omega)] at h
    obtain ⟨hk, rfl⟩ := List.getElem?_eq_some_iff.mp h
    rw [List.length_singleton] at hk
    exact .inr ⟨by omega, by rw [List.getElem_singleton]⟩

/-- A row splits the table. -/
theorem exists_append_of_getElem? {rows : List Row} {row : Row} {k : Nat}
    (h : rows[k]? = some row) : ∃ l₁ l₂, rows = l₁ ++ row :: l₂ ∧ l₁.length = k := by
  obtain ⟨hlt, rfl⟩ := List.getElem?_eq_some_iff.mp h
  refine ⟨rows.take k, rows.drop (k + 1), ?_, by rw [List.length_take]; omega⟩
  rw [List.getElem_cons_drop, List.take_append_drop]

/-- A mark does not change the numbers. -/
theorem numbersOf_set_mark {rows : List Row} {k : Nat} {c : Connection}
    (h : rows[k]? = some ⟨c, false⟩) : numbersOf (rows.set k ⟨c, true⟩) = numbersOf rows := by
  obtain ⟨l₁, l₂, rfl, rfl⟩ := exists_append_of_getElem? h
  rw [List.set_append_right _ _ (Nat.le_refl _), Nat.sub_self, List.set_cons_zero]
  simp [numbersOf]

/-- A live connection has a row. -/
theorem exists_row_of_mem_liveOf {rows : List Row} {c : Connection} (h : c ∈ liveOf rows) :
    ∃ row ∈ rows, row.conn = c ∧ row.gone = false := by
  obtain ⟨row, hrow, rfl⟩ := List.mem_map.mp h
  obtain ⟨hmem, hlive⟩ := List.mem_filter.mp hrow
  exact ⟨row, hmem, rfl, by simpa using hlive⟩

/-- Poll entry `p` and record `r` are those of connection `c`. -/
structure Shows (p : PollFd) (r : UdtcpInfos) (c : Connection) : Prop where
  fd : p.fd = c.fd
  events : p.events = POLLIN
  tcpSocket : r.tcpSocket = c.fd
  id : r.id = UInt64.ofNat c.number
  handle : ∀ slot q, c.handle = some (slot, q) → q = r

/-- What a row says of its slot. -/
def Row.Entry (row : Row) (p : PollFd) (r : UdtcpInfos) : Prop :=
  if row.gone then p.fd = -1 else Shows p r row.conn

section

variable {m : Nat}

/-- The server against the observer, slot by slot. -/
structure Table (w : Watch) (s : UdtcpServer m) (rows : List Row) : Prop where
  pollNfds : s.pollNfds = 2 + rows.length
  bound : s.pollNfds ≤ pollTableSize m
  countId : s.countId = UInt64.ofNat (w.completed + 1)
  live : w.live = liveOf rows
  entries : ∀ (k : Nat) (row : Row), rows[k]? = some row →
    row.Entry (s.pollFds (2 + k)) (s.infos (2 + k))
  listener : (s.pollFds 0).fd = s.serverInfos.tcpSocket ∧ s.serverInfos.tcpSocket ∈ w.own
  receiver : (s.pollFds 1).fd = s.serverInfos.udpServerSocket ∧
    s.serverInfos.udpServerSocket ∈ w.own
  apart : ∀ c ∈ w.live, 0 ≤ c.fd ∧ c.fd ∉ w.own
  distinct : w.live.Pairwise (·.fd ≠ ·.fd)
  ordered : (numbersOf rows).Pairwise (· < ·)
  bounded : ∀ n ∈ numbersOf rows, n ≤ w.completed

namespace Table

variable {w w' : Watch} {s s' : UdtcpServer m} {rows : List Row} {c : Connection}

/-- Only what the table consists of matters: the entries up to `poll_nfds`, without `revents`. -/
theorem of_state (h : Table w s rows) (hn : s'.pollNfds = s.pollNfds)
    (hc : s'.countId = s.countId)
    (hp : ∀ i < s.pollNfds, (s'.pollFds i).fd = (s.pollFds i).fd ∧
      (s'.pollFds i).events = (s.pollFds i).events)
    (hi : ∀ i < s.pollNfds, s'.infos i = s.infos i) : Table w s' rows := by
  have hnfds := h.pollNfds
  have h₀ : s'.serverInfos = s.serverInfos := hi 0 (by omega)
  refine { h with pollNfds := hn.trans hnfds, bound := hn ▸ h.bound, countId := hc.trans h.countId,
                  entries := fun k row hk ↦ ?_, listener := ?_, receiver := ?_ }
  · obtain ⟨hk', -⟩ := List.getElem?_eq_some_iff.mp hk
    have hlt : 2 + k < s.pollNfds := by omega
    have hentry := h.entries k row hk
    unfold Row.Entry at hentry ⊢
    rw [hi _ hlt, (hp _ hlt).1]
    split at hentry
    · next hgone => rw [if_pos hgone]; exact hentry
    · next hgone =>
      rw [if_neg hgone]
      exact { hentry with fd := (hp _ hlt).1.trans hentry.fd
                          events := (hp _ hlt).2.trans hentry.events }
  · rw [(hp 0 (by omega)).1, h₀]
    exact h.listener
  · rw [(hp 1 (by omega)).1, h₀]
    exact h.receiver

/-- Records behind the last client are no part of the table. -/
theorem of_kept (h : Table w s rows) (hk : s.Kept s.pollNfds s') : Table w s' rows :=
  h.of_state hk.pollNfds hk.countId (fun i _ ↦ by rw [hk.pollFds]; exact ⟨rfl, rfl⟩) hk.infos

/-- A descriptor in the middle of its handshake is no part of it either. -/
theorem of_watch (h : Table w s rows) (ho : w'.own = w.own) (hl : w'.live = w.live)
    (hc : w'.completed = w.completed) : Table w' s rows where
  pollNfds := h.pollNfds
  bound := h.bound
  countId := by rw [hc]; exact h.countId
  live := hl.trans h.live
  entries := h.entries
  listener := by rw [ho]; exact h.listener
  receiver := by rw [ho]; exact h.receiver
  apart := by rw [hl, ho]; exact h.apart
  distinct := by rw [hl]; exact h.distinct
  ordered := h.ordered
  bounded := by rw [hc]; exact h.bounded

private theorem serverInfos_enter (s : UdtcpServer m) {slot : Nat} (h : 0 < slot)
    (r : UdtcpInfos) : (s.enter slot r).serverInfos = s.serverInfos :=
  Function.update_of_ne (by omega) _ _

/-- A completed handshake is one row more. -/
theorem complete (h : Table w s rows) {fd : Fd} {r : UdtcpInfos}
    (hfree : s.pollNfds < pollTableSize m) (hfd : 0 ≤ fd) (hown : fd ∉ w.own)
    (hlive : ∀ c ∈ w.live, c.fd ≠ fd) (htcp : r.tcpSocket = fd) (hid : r.id = s.countId) :
    Table (w.complete fd) (s.enter s.pollNfds r)
      (rows ++ [⟨⟨fd, w.completed + 1, none⟩, false⟩]) := by
  have hnfds := h.pollNfds
  have h₀ := serverInfos_enter s (show 0 < s.pollNfds by omega) r
  have hp {i : Nat} (hi : i < s.pollNfds) : (s.enter s.pollNfds r).pollFds i = s.pollFds i :=
    Function.update_of_ne (Nat.ne_of_lt hi) _ _
  have hr {i : Nat} (hi : i < s.pollNfds) : (s.enter s.pollNfds r).infos i = s.infos i :=
    Function.update_of_ne (Nat.ne_of_lt hi) _ _
  constructor
  case pollNfds =>
    rw [List.length_append, List.length_singleton, ← Nat.add_assoc, ← hnfds]
    rfl
  case bound => exact hfree
  case countId =>
    change s.countId + 1 = _
    rw [h.countId]
    exact (UInt64.ofNat_add _ 1).symm
  case live =>
    rw [liveOf_append, ← h.live]
    rfl
  case entries =>
    intro k row hk
    rcases getElem?_append_last hk with hk | ⟨rfl, rfl⟩
    · obtain ⟨hlt, -⟩ := List.getElem?_eq_some_iff.mp hk
      rw [hp (by omega), hr (by omega)]
      exact h.entries k row hk
    · rw [← hnfds]
      have hinfos : (s.enter s.pollNfds r).infos s.pollNfds = r := Function.update_self _ _ _
      have hpoll : (s.enter s.pollNfds r).pollFds s.pollNfds =
          ⟨r.tcpSocket, POLLIN, (s.pollFds s.pollNfds).revents⟩ := Function.update_self _ _ _
      rw [hinfos, hpoll]
      exact ⟨htcp, rfl, htcp, hid.trans h.countId, fun _ _ hnone ↦ by cases hnone⟩
  case listener =>
    rw [hp (by omega), h₀]
    exact h.listener
  case receiver =>
    rw [hp (by omega), h₀]
    exact h.receiver
  case apart =>
    intro c hc
    rcases List.mem_append.mp hc with hc | hc
    · exact h.apart c hc
    · rw [List.mem_singleton.mp hc]
      exact ⟨hfd, hown⟩
  case distinct =>
    refine List.pairwise_append.mpr ⟨h.distinct, List.pairwise_singleton _ _, ?_⟩
    intro c hc d hd
    rw [List.mem_singleton.mp hd]
    exact hlive c hc
  case ordered =>
    rw [numbersOf_append]
    refine List.pairwise_append.mpr ⟨h.ordered, List.pairwise_singleton _ _, ?_⟩
    intro n hn n' hn'
    rw [List.mem_singleton.mp hn']
    exact Nat.lt_succ_of_le (h.bounded n hn)
  case bounded =>
    intro n hn
    rw [numbersOf_append] at hn
    rcases List.mem_append.mp hn with hn | hn
    · exact Nat.le_succ_of_le (h.bounded n hn)
    · rw [List.mem_singleton.mp hn]
      exact Nat.le_refl _

private theorem handAll (h : Table w s rows) {slot : Nat} {r : UdtcpInfos}
    (hr : ∀ (k : Nat) (row : Row), rows[k]? = some row → row.conn.number = w.completed →
      s.infos (2 + k) = r) :
    Table (w.hand slot r) s
      (rows.map fun row ↦ { row with conn := w.handed slot r row.conn }) := by
  have hlive : (w.hand slot r).live =
      liveOf (rows.map fun row ↦ { row with conn := w.handed slot r row.conn }) := by
    change w.live.map _ = _
    rw [h.live]
    simp only [liveOf, List.filter_map, List.map_map]
    rfl
  have hnumbers : numbersOf (rows.map fun row ↦ { row with conn := w.handed slot r row.conn }) =
      numbersOf rows := by
    simp [numbersOf, Function.comp_def]
  refine { h with pollNfds := ?_, live := hlive, entries := ?_, apart := ?_, distinct := ?_,
                  ordered := ?_, bounded := ?_ }
  · rw [List.length_map]
    exact h.pollNfds
  · intro k row hk
    rw [List.getElem?_map] at hk
    obtain ⟨row₀, hk₀, rfl⟩ := Option.map_eq_some_iff.mp hk
    have hentry := h.entries k row₀ hk₀
    unfold Row.Entry at hentry ⊢
    dsimp only
    split at hentry
    · next hgone => rw [if_pos hgone]; exact hentry
    · next hgone =>
      rw [if_neg hgone]
      refine { hentry with fd := by rw [hentry.fd, Watch.handed_fd],
                           tcpSocket := by rw [hentry.tcpSocket, Watch.handed_fd],
                           id := by rw [hentry.id, Watch.handed_number], handle := ?_ }
      intro slot' q hq
      unfold Watch.handed at hq
      split at hq
      · next hnumber =>
        cases hq
        exact (hr k row₀ hk₀ hnumber).symm
      · exact hentry.handle slot' q hq
  · intro c hc
    obtain ⟨d, hd, rfl⟩ := List.mem_map.mp hc
    rw [Watch.handed_fd]
    exact h.apart d hd
  · refine List.pairwise_map.mpr (h.distinct.imp ?_)
    intro c d hcd
    rwa [Watch.handed_fd, Watch.handed_fd]
  · rw [hnumbers]
    exact h.ordered
  · rw [hnumbers]
    exact h.bounded

/-- Handing the youngest connection to the user leaves the slots alone. -/
theorem hand (h : Table w s (rows ++ [⟨c, false⟩])) (hc : c.number = w.completed) (slot : Nat) :
    Table (w.hand slot (s.infos (2 + rows.length))) s
      (rows ++ [⟨{ c with handle := some (slot, s.infos (2 + rows.length)) }, false⟩]) := by
  have hold : ∀ row ∈ rows, row.conn.number < w.completed := by
    intro row hrow
    have hordered := h.ordered
    rw [numbersOf_append] at hordered
    have hlt := (List.pairwise_append.mp hordered).2.2 row.conn.number
      (List.mem_map_of_mem hrow) c.number (List.mem_singleton_self _)
    omega
  have hmap : (rows ++ [Row.mk c false]).map (fun row ↦
      { row with conn := w.handed slot (s.infos (2 + rows.length)) row.conn }) =
      rows ++ [⟨{ c with handle := some (slot, s.infos (2 + rows.length)) }, false⟩] := by
    rw [List.map_append, List.map_singleton, Watch.handed, if_pos hc]
    congr 1
    conv =>
      rhs
      rw [← List.map_id rows]
    apply List.map_congr_left
    intro row hrow
    have hne : row.conn.number ≠ w.completed := Nat.ne_of_lt (hold row hrow)
    rw [Watch.handed, if_neg hne]
    rfl
  rw [← hmap]
  apply h.handAll
  intro k row hk hnumber
  rcases getElem?_append_last hk with hk | ⟨rfl, -⟩
  · exact absurd hnumber (Nat.ne_of_lt (hold row (List.mem_of_getElem? hk)))
  · rfl

/-- Disconnecting a client marks its row. -/
theorem drop (h : Table w s rows) {k : Nat} (hk : rows[k]? = some ⟨c, false⟩) :
    Table (w.drop c.fd) (s.modifyPollFd (2 + k) fun p ↦ { p with fd := -1 })
      (rows.set k ⟨c, true⟩) := by
  obtain ⟨hlt, hrow⟩ := List.getElem?_eq_some_iff.mp hk
  have hnfds := h.pollNfds
  have hp {i : Nat} (hi : i ≠ 2 + k) :
      (s.modifyPollFd (2 + k) fun p ↦ { p with fd := -1 }).pollFds i = s.pollFds i :=
    Function.update_of_ne hi _ _
  obtain ⟨l₁, l₂, hrows, hlen⟩ := exists_append_of_getElem? hk
  have hset : rows.set k ⟨c, true⟩ = l₁ ++ ⟨c, true⟩ :: l₂ := by
    rw [hrows, ← hlen, List.set_append_right _ _ (Nat.le_refl _), Nat.sub_self, List.set_cons_zero]
  refine { h with pollNfds := ?_, live := ?_, entries := ?_, listener := ?_, receiver := ?_,
                  apart := ?_, distinct := ?_, ordered := ?_, bounded := ?_ }
  · rw [List.length_set]
    exact h.pollNfds
  · have hdistinct := h.distinct
    rw [h.live, hrows, liveOf_append, liveOf_cons_live] at hdistinct
    obtain ⟨-, hright, hcross⟩ := List.pairwise_append.mp hdistinct
    have hleft : (liveOf l₁).filter (·.fd ≠ c.fd) = liveOf l₁ := by
      apply List.filter_eq_self.mpr
      intro d hd
      simpa using hcross d hd c (List.mem_cons_self ..)
    have hrest : (liveOf l₂).filter (·.fd ≠ c.fd) = liveOf l₂ := by
      apply List.filter_eq_self.mpr
      intro d hd
      simpa using ((List.pairwise_cons.mp hright).1 d hd).symm
    change w.live.filter _ = _
    rw [h.live, hset, hrows, liveOf_append, liveOf_append, liveOf_cons_live, liveOf_cons_gone,
      List.filter_append, List.filter_cons_of_neg (by simp), hleft, hrest]
  · intro j row hj
    by_cases hjk : j = k
    · subst hjk
      rw [List.getElem?_set_self hlt] at hj
      cases hj
      have hself : (s.modifyPollFd (2 + j) fun p ↦ { p with fd := -1 }).pollFds (2 + j) =
          { s.pollFds (2 + j) with fd := -1 } := Function.update_self _ _ _
      rw [hself]
      rfl
    · rw [List.getElem?_set_ne (Ne.symm hjk)] at hj
      rw [hp (by omega)]
      exact h.entries j row hj
  · rw [hp (by omega)]
    exact h.listener
  · rw [hp (by omega)]
    exact h.receiver
  · intro d hd
    exact h.apart d (List.mem_filter.mp hd).1
  · exact h.distinct.filter _
  · rw [numbersOf_set_mark hk]
    exact h.ordered
  · rw [numbersOf_set_mark hk]
    exact h.bounded

end Table

end

end Udtcp
