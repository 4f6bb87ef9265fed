import Udtcp.Table.Rows

/-!
# Compaction

The loop of `server_poll.c:519–536` deletes the marked rows and keeps the others in order.
-/

namespace Udtcp

/-- An ascending copy from the next element moves everything in its range down by one. -/
theorem copyDown_apply {α : Type} (a : Nat → α) (dst n i : Nat) :
    copyDown a dst n i = if dst ≤ i ∧ i < dst + n then a (i + 1) else a i := by
  induction n generalizing a dst with
  | zero =>
    rw [if_neg (by omega)]
    rfl
  | succ n ih =>
    rw [copyDown, ih]
    by_cases hi : i = dst
    · subst hi
      rw [if_neg (by omega), if_pos (by omega), Function.update_self]
    · by_cases hin : dst + 1 ≤ i ∧ i < dst + 1 + n
      · rw [if_pos hin, if_pos (by omega), Function.update_of_ne (by omega)]
      · rw [if_neg hin, if_neg (by omega), Function.update_of_ne hi]

/-- The rows without a mark. -/
def unmarked (rows : List Row) : List Row := rows.filter (!·.gone)

/-- Taking out a marked row leaves the unmarked ones. -/
theorem unmarked_eraseIdx {rows : List Row} {k : Nat} {row : Row} (hk : rows[k]? = some row)
    (hgone : row.gone = true) : unmarked (rows.eraseIdx k) = unmarked rows := by
  obtain ⟨l₁, l₂, rfl, rfl⟩ := exists_append_of_getElem? hk
  rw [List.eraseIdx_append_of_length_le (Nat.le_refl _), Nat.sub_self, List.eraseIdx_cons_zero]
  simp [unmarked, hgone]

section

variable {m : Nat} {w : Watch} {s : UdtcpServer m} {rows : List Row}

/-- What deleting an entry leaves below the new end: every later entry one place down. -/
theorem UdtcpServer.removeSlot_spec {i : Nat} (h : i < s.pollNfds) :
    (s.removeSlot i).pollNfds = s.pollNfds - 1 ∧ (s.removeSlot i).countId = s.countId ∧
      ∀ j < s.pollNfds - 1,
        (s.removeSlot i).pollFds j = s.pollFds (if j < i then j else j + 1) ∧
        (s.removeSlot i).infos j = s.infos (if j < i then j else j + 1) := by
  unfold removeSlot
  by_cases hi : i < s.pollNfds - 1
  · rw [if_pos hi]
    refine ⟨rfl, rfl, fun j hj ↦ ?_⟩
    simp only [copyDown_apply]
    by_cases hji : j < i
    · rw [if_neg (by omega), if_pos hji, if_neg (by omega)]
      exact ⟨rfl, rfl⟩
    · rw [if_pos (by omega), if_neg hji, if_pos (by omega)]
      exact ⟨rfl, rfl⟩
  · rw [if_neg hi]
    refine ⟨rfl, rfl, fun j hj ↦ ?_⟩
    rw [if_pos (by omega)]
    exact ⟨rfl, rfl⟩

/-- Taking out an entry leaves the address of the server alone. -/
@[simp] theorem UdtcpServer.removeSlot_addr (s : UdtcpServer m) (i : Nat) :
    (s.removeSlot i).addr = s.addr := by
  unfold removeSlot
  split <;> rfl

/-- It leaves the callback for connections alone. -/
@[simp] theorem UdtcpServer.removeSlot_connectCallback (s : UdtcpServer m) (i : Nat) :
    (s.removeSlot i).connectCallback = s.connectCallback := by
  unfold removeSlot
  split <;> rfl

/-- It leaves the callback for disconnections alone. -/
@[simp] theorem UdtcpServer.removeSlot_disconnectCallback (s : UdtcpServer m) (i : Nat) :
    (s.removeSlot i).disconnectCallback = s.disconnectCallback := by
  unfold removeSlot
  split <;> rfl

namespace Table

/-- Deleting a marked entry deletes its row. -/
theorem removeSlot (h : Table w s rows) {k : Nat} {row : Row} (hk : rows[k]? = some row)
    (hgone : row.gone = true) : Table w (s.removeSlot (2 + k)) (rows.eraseIdx k) := by
  obtain ⟨hlt, -⟩ := List.getElem?_eq_some_iff.mp hk
  have hnfds := h.pollNfds
  have hlen : (rows.eraseIdx k).length = rows.length - 1 := List.length_eraseIdx_of_lt hlt
  obtain ⟨hn, hc, hentry⟩ := s.removeSlot_spec (i := 2 + k) (by omega)
  have hsub : (rows.eraseIdx k).Sublist rows := List.eraseIdx_sublist rows k
  have hfront {j : Nat} (hj : j < 2) : (s.removeSlot (2 + k)).pollFds j = s.pollFds j ∧
      (s.removeSlot (2 + k)).infos j = s.infos j := by
    have hj' := hentry j (by omega)
    rwa [if_pos (by omega)] at hj'
  have h₀ : (s.removeSlot (2 + k)).serverInfos = s.serverInfos := (hfront (by omega)).2
  constructor
  case pollNfds => omega
  case bound => exact hn ▸ Nat.le_trans (Nat.sub_le _ _) h.bound
  case countId => exact hc.trans h.countId
  case live =>
    rw [h.live]
    exact (congrArg (List.map (·.conn)) (unmarked_eraseIdx hk hgone)).symm
  case entries =>
    intro j row' hj
    obtain ⟨hj', -⟩ := List.getElem?_eq_some_iff.mp hj
    rw [List.getElem?_eraseIdx] at hj
    rw [(hentry (2 + j) (by omega)).1, (hentry (2 + j) (by omega)).2]
    by_cases hjk : j < k
    · rw [if_pos hjk] at hj
      rw [if_pos (by omega)]
      exact h.entries j row' hj
    · rw [if_neg hjk] at hj
      rw [if_neg (by omega)]
      exact h.entries (j + 1) row' hj
  case listener =>
    rw [(hfront (by omega)).1, h₀]
    exact h.listener
  case receiver =>
    rw [(hfront (by omega)).1, h₀]
    exact h.receiver
  case apart => exact h.apart
  case distinct => exact h.distinct
  case ordered => exact h.ordered.sublist (hsub.map _)
  case bounded => exact fun n hn ↦ h.bounded n ((hsub.map _).subset hn)

/-- An entry is `-1` exactly if its row is marked. -/
theorem marked_iff (h : Table w s rows) {k : Nat} {row : Row} (hk : rows[k]? = some row) :
    (s.pollFds (2 + k)).fd = -1 ↔ row.gone = true := by
  have hentry := h.entries k row hk
  unfold Row.Entry at hentry
  split at hentry
  · next hgone => exact iff_of_true hentry hgone
  · next hgone =>
    have hmem : row.conn ∈ w.live := by
      rw [h.live]
      apply List.mem_map_of_mem
      exact List.mem_filter.mpr ⟨List.mem_of_getElem? hk, by simpa using hgone⟩
    have hfd := (h.apart _ hmem).1
    rw [hentry.fd]
    refine iff_of_false ?_ hgone
    intro heq
    rw [heq] at hfd
    exact absurd hfd (by decide)

/-- With no mark below an index behind the last entry there is none at all. -/
theorem unmarked_eq_self (h : Table w s rows) {i : Nat} (hi : s.pollNfds ≤ i)
    (hbelow : ∀ k row, rows[k]? = some row → 2 + k < i → row.gone = false) :
    unmarked rows = rows := by
  have hnfds := h.pollNfds
  apply List.filter_eq_self.mpr
  intro row hrow
  obtain ⟨k, hk⟩ := List.getElem?_of_mem hrow
  obtain ⟨hlt, -⟩ := List.getElem?_eq_some_iff.mp hk
  rw [hbelow k row hk (by omega)]
  rfl

/-- **Compaction**, from any entry below which nothing is marked: with the table it keeps whatever
the deletion of a marked row keeps. -/
theorem compactFrom {X : UdtcpServer m → List Row → Prop}
    (remove : ∀ (s : UdtcpServer m) (rows : List Row) (k : Nat) (row : Row), Table w s rows →
      X s rows → rows[k]? = some row → row.gone = true →
      X (s.removeSlot (2 + k)) (rows.eraseIdx k))
    {rounds i : Nat} (h : Table w s rows) (hx : X s rows) (hr : s.pollNfds ≤ rounds + i)
    (hi : 2 ≤ i) (hbelow : ∀ k row, rows[k]? = some row → 2 + k < i → row.gone = false) :
    Table w (s.compactFrom rounds i) (unmarked rows) ∧
      X (s.compactFrom rounds i) (unmarked rows) := by
  induction rounds generalizing s rows i with
  | zero =>
    rw [h.unmarked_eq_self (by omega) hbelow]
    exact ⟨h, hx⟩
  | succ rounds ih =>
    have hnfds := h.pollNfds
    unfold UdtcpServer.compactFrom
    by_cases hlt : i < s.pollNfds
    · rw [if_pos hlt]
      obtain ⟨k, rfl⟩ : ∃ k, i = 2 + k := ⟨i - 2, by omega⟩
      have hk : rows[k]? = some rows[k] := List.getElem?_eq_getElem (by omega)
      by_cases hmark : (s.pollFds (2 + k)).fd = -1
      · rw [if_pos hmark]
        have hgone := (h.marked_iff hk).mp hmark
        rw [← unmarked_eraseIdx hk hgone]
        obtain ⟨hn, -, -⟩ := s.removeSlot_spec hlt
        apply ih (h.removeSlot hk hgone) (remove s rows k _ h hx hk hgone) (by omega) hi
        intro j row hj hjk
        rw [List.getElem?_eraseIdx, if_pos (by omega)] at hj
        exact hbelow j row hj hjk
      · rw [if_neg hmark]
        apply ih h hx (by omega) (by omega)
        intro j row hj hjk
        by_cases hjk' : j = k
        · subst hjk'
          rw [hk] at hj
          cases hj
          simpa using fun hgone ↦ hmark ((h.marked_iff hk).mpr hgone)
        · exact hbelow j row hj (by omega)
    · rw [if_neg hlt]
      rw [h.unmarked_eq_self (by omega) hbelow]
      exact ⟨h, hx⟩

/-- The compaction deletes the marked rows and no others. -/
theorem compact (X : UdtcpServer m → List Row → Prop)
    (remove : ∀ (s : UdtcpServer m) (rows : List Row) (k : Nat) (row : Row), Table w s rows →
      X s rows → rows[k]? = some row → row.gone = true →
      X (s.removeSlot (2 + k)) (rows.eraseIdx k)) (h : Table w s rows) (hx : X s rows) :
    Table w s.compact (unmarked rows) ∧ X s.compact (unmarked rows) :=
  h.compactFrom remove hx (by omega) (Nat.le_refl 2) fun _ _ _ hlt ↦ by omega

end Table

end

end Udtcp
