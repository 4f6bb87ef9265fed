import Udtcp.Table.Run

/-!
# The compaction loop on its own

The loop of `server_poll.c:520–536` over any table, one deletion at a time: what it leaves, and
which blocks it copies. The index is unsigned, but it is at least 2 where it is stepped back.
-/

namespace Udtcp

open Interaction Routine

/-- A `memcpy` of `count` elements between two indices of `poll_fds`, and one of `infos`. -/
structure BlockCopy where
  dst : Nat
  src : Nat
  count : Nat
  deriving DecidableEq, Repr

/-- The copy reads and writes inside arrays of `size` elements, from one range to another that
does not overlap it. -/
structure BlockCopy.Legal (c : BlockCopy) (size : Nat) : Prop where
  read : c.src + c.count ≤ size
  written : c.dst + c.count ≤ size
  apart : c.dst + c.count ≤ c.src ∨ c.src + c.count ≤ c.dst

section

variable {m : Nat} {s s' : UdtcpServer m} {i : Nat} {copies : List BlockCopy}

namespace UdtcpServer

/-- The copies of `server_poll.c:524–532` for entry `i`. -/
def copiesAt (s : UdtcpServer m) (i : Nat) : List BlockCopy :=
  if i < s.pollNfds - 1 then [⟨i, i + 1, s.pollNfds - i⟩] else []

/-- A slot of the table: its poll entry and its record. -/
def slot (s : UdtcpServer m) (i : Nat) : PollFd × UdtcpInfos := (s.pollFds i, s.infos i)

/-- The slots from `i` up to `poll_nfds`. -/
def slotsFrom (s : UdtcpServer m) (i : Nat) : List (PollFd × UdtcpInfos) :=
  (List.range' i (s.pollNfds - i)).map s.slot

/-- The slot is not marked. -/
def Unmarked (e : PollFd × UdtcpInfos) : Bool := e.1.fd ≠ -1

/-- The loop from index `i` on, with the copies it makes: it ends, it deletes the entry and looks
at the same index again, or it goes on to the next. -/
inductive Compacts : Nat → UdtcpServer m → List BlockCopy → UdtcpServer m → Prop
  | done {i : Nat} {s : UdtcpServer m} (h : ¬ i < s.pollNfds) : Compacts i s [] s
  | delete {i : Nat} {s s' : UdtcpServer m} {copies : List BlockCopy} (hi : i < s.pollNfds)
      (hfd : (s.pollFds i).fd = -1) (rest : Compacts i (s.removeSlot i) copies s') :
      Compacts i s (s.copiesAt i ++ copies) s'
  | keep {i : Nat} {s s' : UdtcpServer m} {copies : List BlockCopy} (hi : i < s.pollNfds)
      (hfd : (s.pollFds i).fd ≠ -1) (rest : Compacts (i + 1) s copies s') :
      Compacts i s copies s'

/-- The compaction is determined by the table. -/
theorem Compacts.unique {copies₁ copies₂ : List BlockCopy} {s₁ s₂ : UdtcpServer m}
    (h₁ : Compacts i s copies₁ s₁) (h₂ : Compacts i s copies₂ s₂) :
    copies₁ = copies₂ ∧ s₁ = s₂ := by
  induction h₁ generalizing copies₂ with
  | done h =>
    cases h₂ with
    | done _ => exact ⟨rfl, rfl⟩
    | delete hi _ _ => exact absurd hi h
    | keep hi _ _ => exact absurd hi h
  | delete hi hfd _ ih =>
    cases h₂ with
    | done h => exact absurd hi h
    | delete _ _ rest =>
      obtain ⟨rfl, rfl⟩ := ih rest
      exact ⟨rfl, rfl⟩
    | keep _ hne _ => exact absurd hfd hne
  | keep hi hfd _ ih =>
    cases h₂ with
    | done h => exact absurd hi h
    | delete _ heq _ => exact absurd heq hfd
    | keep _ _ rest => exact ih rest

private theorem slotsFrom_eq_cons (h : i < s.pollNfds) :
    s.slotsFrom i = s.slot i :: s.slotsFrom (i + 1) := by
  have hlen : s.pollNfds - i = (s.pollNfds - (i + 1)) + 1 := by omega
  rw [slotsFrom, hlen, List.range'_succ]
  rfl

private theorem slotsFrom_eq_nil (h : ¬ i < s.pollNfds) : s.slotsFrom i = [] := by
  rw [slotsFrom, Nat.sub_eq_zero_of_le (Nat.le_of_not_lt h)]
  rfl

@[simp] private theorem length_slotsFrom (s : UdtcpServer m) (i : Nat) :
    (s.slotsFrom i).length = s.pollNfds - i := by
  simp [slotsFrom]

/-- A deletion moves the later slots down by one and leaves the earlier ones. -/
theorem slot_removeSlot {j : Nat} (h : i < s.pollNfds) (hj : j < s.pollNfds - 1) :
    (s.removeSlot i).slot j = s.slot (if j < i then j else j + 1) := by
  obtain ⟨-, -, hentry⟩ := s.removeSlot_spec h
  exact Prod.ext (hentry j hj).1 (hentry j hj).2

private theorem slotsFrom_removeSlot (h : i < s.pollNfds) :
    (s.removeSlot i).slotsFrom i = s.slotsFrom (i + 1) := by
  obtain ⟨hn, -, -⟩ := s.removeSlot_spec h
  have hlen : s.pollNfds - 1 - i = s.pollNfds - (i + 1) := by omega
  have hshift : List.range' (i + 1) (s.pollNfds - (i + 1)) =
      (List.range' i (s.pollNfds - (i + 1))).map (1 + ·) := by
    rw [List.map_add_range', Nat.add_comm 1 i]
  rw [slotsFrom, slotsFrom, hn, hlen, hshift, List.map_map]
  apply List.map_congr_left
  intro j hj
  obtain ⟨hlow, hhigh⟩ := List.mem_range'_1.mp hj
  rw [slot_removeSlot h (by omega), if_neg (by omega), Function.comp_apply, Nat.add_comm 1 j]

/-- What the loop does from an index on: it ends in the table that `compactFrom` computes, which
has the slots below the index as they were and behind them the unmarked ones in their order. -/
theorem compactFrom_spec {rounds : Nat} (hr : s.pollNfds ≤ rounds + i) (hi : i ≤ s.pollNfds) :
    (∃ copies, Compacts i s copies (s.compactFrom rounds i)) ∧
      i ≤ (s.compactFrom rounds i).pollNfds ∧
      (s.compactFrom rounds i).slotsFrom i = (s.slotsFrom i).filter Unmarked ∧
      ∀ j < i, (s.compactFrom rounds i).slot j = s.slot j := by
  induction rounds generalizing s i with
  | zero =>
    have hend : ¬ i < s.pollNfds := by omega
    refine ⟨⟨[], .done hend⟩, hi, ?_, fun _ _ ↦ rfl⟩
    rw [compactFrom, slotsFrom_eq_nil hend]
    rfl
  | succ rounds ih =>
    unfold compactFrom
    by_cases hlt : i < s.pollNfds
    · rw [if_pos hlt]
      by_cases hfd : (s.pollFds i).fd = -1
      · rw [if_pos hfd]
        obtain ⟨hn, -, -⟩ := s.removeSlot_spec hlt
        obtain ⟨⟨copies, hc⟩, hle, hslots, hbelow⟩ := ih (s := s.removeSlot i) (i := i)
          (by omega) (by omega)
        have hmarked : ¬ Unmarked (s.slot i) = true := by simp [Unmarked, slot, hfd]
        refine ⟨⟨_, .delete hlt hfd hc⟩, hle, ?_, fun j hj ↦ ?_⟩
        · rw [hslots, slotsFrom_removeSlot hlt, slotsFrom_eq_cons hlt,
            List.filter_cons_of_neg hmarked]
        · rw [hbelow j hj, slot_removeSlot hlt (by omega), if_pos hj]
      · rw [if_neg hfd]
        obtain ⟨⟨copies, hc⟩, hle, hslots, hbelow⟩ := ih (s := s) (i := i + 1) (by omega) hlt
        have hunmarked : Unmarked (s.slot i) = true := by simp [Unmarked, slot, hfd]
        refine ⟨⟨_, .keep hlt hfd hc⟩, by omega, ?_, fun j hj ↦ hbelow j (by omega)⟩
        rw [slotsFrom_eq_cons hlt, List.filter_cons_of_pos hunmarked, ← hslots,
          slotsFrom_eq_cons (Nat.lt_of_succ_le hle), hbelow i (Nat.lt_succ_self i)]
    · rw [if_neg hlt]
      refine ⟨⟨[], .done hlt⟩, hi, ?_, fun _ _ ↦ rfl⟩
      rw [slotsFrom_eq_nil hlt]
      rfl

/-- What the compaction leaves behind the first two slots was there before, unmarked. -/
theorem exists_slot_compact (h : 2 ≤ s.pollNfds) (hlow : 2 ≤ i) (hi : i < s.compact.pollNfds) :
    (s.compact.pollFds i).fd ≠ -1 ∧
      ∃ j, 2 ≤ j ∧ j < s.pollNfds ∧ s.compact.slot i = s.slot j := by
  obtain ⟨-, -, hslots, -⟩ := compactFrom_spec (s := s) (Nat.le_add_right s.pollNfds 2) h
  have hmem : s.compact.slot i ∈ s.compact.slotsFrom 2 :=
    List.mem_map_of_mem (List.mem_range'_1.mpr ⟨hlow, by omega⟩)
  have hslots : s.compact.slotsFrom 2 = (s.slotsFrom 2).filter Unmarked := hslots
  rw [hslots] at hmem
  obtain ⟨hmem, hunmarked⟩ := List.mem_filter.mp hmem
  obtain ⟨j, hj, hslot⟩ := List.mem_map.mp hmem
  have hrange := List.mem_range'_1.mp hj
  exact ⟨of_decide_eq_true hunmarked, j, hrange.1, by omega, hslot.symm⟩

private theorem Compacts.legal_iff (h : Compacts i s copies s') :
    (∀ c ∈ copies, c.Legal (pollTableSize m)) ↔
      ∀ k, i ≤ k → k + 1 < s.pollNfds → (s.pollFds k).fd ≠ -1 := by
  induction h with
  | @done i s h =>
    refine iff_of_true nofun fun k hk hlt ↦ ?_
    omega
  | @delete i s s' copies hi hfd rest ih =>
    obtain ⟨hn, -, -⟩ := s.removeSlot_spec hi
    by_cases hlast : i < s.pollNfds - 1
    · -- the ranges are shifted by one against each other and at least two long
      refine iff_of_false (fun hlegal ↦ ?_) fun hall ↦ hall i (Nat.le_refl i) (by omega) hfd
      have hcopy : (⟨i, i + 1, s.pollNfds - i⟩ : BlockCopy) ∈ s.copiesAt i ++ copies := by
        rw [copiesAt, if_pos hlast]
        exact List.mem_cons_self
      have hapart := (hlegal _ hcopy).apart
      simp only at hapart
      omega
    · have hnone : s.copiesAt i = [] := if_neg hlast
      rw [hnone, List.nil_append, ih]
      refine iff_of_true (fun k hk hlt ↦ ?_) fun k hk hlt ↦ ?_
      · omega
      · omega
  | @keep i s s' copies hi hfd rest ih =>
    rw [ih]
    refine ⟨fun hall k hk hlt ↦ ?_, fun hall k hk hlt ↦ hall k (by omega) hlt⟩
    by_cases hki : k = i
    · rw [hki]
      exact hfd
    · exact hall k (by omega) hlt

end UdtcpServer

/-- **Compaction is a stable filter.** From any table the loop ends, with the unmarked slots from
2 on in their order, each entry with its record, and slots 0 and 1 as they were. -/
theorem compaction_stable_filter (s : UdtcpServer m) (h : 2 ≤ s.pollNfds) :
    (∃ copies, UdtcpServer.Compacts 2 s copies s.compact) ∧
      (∀ copies s', UdtcpServer.Compacts 2 s copies s' → s' = s.compact) ∧
      s.compact.pollNfds = 2 + ((s.slotsFrom 2).filter UdtcpServer.Unmarked).length ∧
      s.compact.slotsFrom 2 = (s.slotsFrom 2).filter UdtcpServer.Unmarked ∧
      s.compact.slot 0 = s.slot 0 ∧ s.compact.slot 1 = s.slot 1 := by
  obtain ⟨⟨copies, hc⟩, hle, hslots, hbelow⟩ :=
    UdtcpServer.compactFrom_spec (s := s) (Nat.le_add_right s.pollNfds 2) h
  refine ⟨⟨copies, hc⟩, fun _ _ hc' ↦ (hc'.unique hc).2, ?_, hslots, hbelow 0 (by decide),
    hbelow 1 (by decide)⟩
  have hlen := congrArg List.length hslots
  rw [UdtcpServer.length_slotsFrom] at hlen
  rw [UdtcpServer.compact, ← hlen]
  omega

/-- Three clients, of which the first and the last are marked. -/
def twoOfThreeMarked : UdtcpServer 3 :=
  { UdtcpServer.listening (m := 3) 3 4 with
    pollFds := fun
      | 2 => ⟨-1, POLLIN, 0⟩
      | 4 => ⟨-1, POLLIN, 0⟩
      | i => ⟨Int32.ofNat (i + 3), POLLIN, 0⟩
    pollNfds := 5 }

/-- One slot is left, which was the middle one. -/
theorem compaction_stable_filter_middle :
    (∃ copies, UdtcpServer.Compacts 2 twoOfThreeMarked copies twoOfThreeMarked.compact) ∧
      twoOfThreeMarked.compact.slotsFrom 2 = [twoOfThreeMarked.slot 3] := by
  obtain ⟨hends, -, -, hslots, -⟩ := compaction_stable_filter twoOfThreeMarked (by decide)
  refine ⟨hends, hslots.trans ?_⟩
  rfl

/-! ### The copies -/

/-- The state of a server at the end of a pass in which a slot was marked, right before the
compaction. -/
def UdtcpServer.EndsMarked (s : UdtcpServer m) : Prop :=
  ∃ (done tr : Trace posix) (t t₁ t' : Thread (UdtcpServer m)) (w w' : Watch) (fuel : Nat)
    (timeout : Int) (result : UdtcpPoll) (i : Nat) (on : Bool),
    ServerRun m Watch.AnyPass done t w ∧
    Exec (udtcpServerPoll fuel timeout) t (tr ++ [⟨.pollLoop, on⟩]) result t' ∧
    Scanning fuel timeout t tr (i, true) t₁ ∧ tableKernel.Accepts w (tr ++ [⟨.pollLoop, on⟩]) w' ∧
    t₁.self = s ∧ t'.self = s.compact

/-- **The copies of the compaction** are legal exactly if it makes none: no slot below the last one
is marked. -/
theorem compaction_copies_legal_iff (h : UdtcpServer.Compacts 2 s copies s') :
    (∀ c ∈ copies, c.Legal (pollTableSize m)) ↔
      ∀ k, 2 ≤ k → k + 1 < s.pollNfds → (s.pollFds k).fd ≠ -1 :=
  h.legal_iff

/-- Two clients, of which the second is marked. -/
def lastOfTwoMarked : UdtcpServer 2 :=
  { UdtcpServer.listening (m := 2) 3 4 with
    pollFds := fun
      | 3 => ⟨-1, POLLIN, 0⟩
      | i => ⟨Int32.ofNat (i + 3), POLLIN, 0⟩
    pollNfds := 4 }

/-- Nothing is copied. -/
theorem compaction_copies_legal_last :
    ∃ s', UdtcpServer.Compacts 2 lastOfTwoMarked [] s' ∧
      ∀ c ∈ ([] : List BlockCopy), c.Legal (pollTableSize 2) := by
  have h : UdtcpServer.Compacts 2 lastOfTwoMarked [] (lastOfTwoMarked.removeSlot 3) :=
    .keep (by decide) (by decide) (.delete (by decide) rfl (.done (by decide)))
  refine ⟨_, h, (compaction_copies_legal_iff h).mpr fun k hk hlt ↦ ?_⟩
  obtain rfl : k = 2 := by
    have hlt' : k + 1 < 4 := hlt
    omega
  decide

/-- The table of a server for two clients is full and the first of them leaves: the copy starts
inside its own source and reads one slot behind the arrays. -/
theorem compaction_copies_overlap : ∃ (s : UdtcpServer 2) (copies : List BlockCopy), s.EndsMarked ∧
    UdtcpServer.Compacts 2 s copies s.compact ∧ ⟨2, 3, 2⟩ ∈ copies ∧
    ¬ ∀ c ∈ copies, c.Legal (pollTableSize 2) := by
  obtain ⟨tr, t, w, r₁, r₂, h, -, hn, hlive, -⟩ :=
    exists_two_clients .zero .zero length_blankRecord length_blankRecord
  obtain ⟨tr₁, result, t', w', hpass, ha, -, hn', hlive', hseen⟩ :=
    h.exists_drop_pass (k := 0) (by rw [hlive]; rfl)
  rcases exec_udtcpServerPoll hpass with
    ⟨reply, rfl, -⟩ | ⟨tr₂, ⟨i, marked⟩, t₁, on, rfl, hscan, hself⟩
  · have hnone : sightings [⟨.sys (.poll t.self.polled 0), reply⟩] = [] := by
      cases reply <;> rfl
    rw [hnone] at hseen
    cases hseen
  have hsees : w.Sees (sightings tr₂) w' := by
    have hs := accepts_tableKernel.mp ha
    rw [sightings_append] at hs
    obtain ⟨w₁, hs₁, hs₂⟩ := Watch.sees_append.mp hs
    obtain rfl : w' = w₁ := hs₂
    exact hs₁
  obtain ⟨rows, hrows, -⟩ := h.table.scanning hscan hsees
  -- the scan leaves both rows in place and the first of them marked
  have hnumbers := hrows.numbers
  rw [hlive, hn', Nat.sub_self] at hnumbers
  have hlen : rows.length = 2 := by
    have hmap := congrArg List.length hnumbers
    simpa [numbersOf] using hmap
  obtain ⟨⟨c, gone⟩, row, rfl⟩ := List.length_eq_two.mp hlen
  have hnumber : c.number = 1 := by
    simp only [numbersOf, List.map_cons, List.map_nil, List.range'_zero, List.append_nil,
      List.cons.injEq] at hnumbers
    exact hnumbers.1
  have hleft : w'.live = [⟨7, 2, some (3, r₂)⟩] := by
    rw [hlive', hlive]
    rfl
  have hgone : gone = true := by
    cases gone with
    | true => rfl
    | false =>
      have hhead := hrows.table.live.symm.trans hleft
      rw [liveOf_cons_live] at hhead
      obtain ⟨rfl, -⟩ := List.cons.inj hhead
      cases hnumber
  have hmark := hrows.marks 0 ⟨c, gone⟩ rfl hgone
  obtain rfl : marked = true := hmark.2
  have hfd : (t₁.self.pollFds 2).fd = -1 := (hrows.table.marked_iff (k := 0) rfl).mpr hgone
  have hnfds : t₁.self.pollNfds = 4 := hrows.table.pollNfds
  rw [if_pos rfl] at hself
  have hn₁ : 2 ≤ t₁.self.pollNfds := by omega
  obtain ⟨copies, hc⟩ : ∃ copies, UdtcpServer.Compacts 2 t₁.self copies t₁.self.compact :=
    (UdtcpServer.compactFrom_spec (Nat.le_add_right t₁.self.pollNfds 2) hn₁).1
  have hcopy : (⟨2, 3, 2⟩ : BlockCopy) ∈ copies := by
    generalize t₁.self.compact = s' at hc
    cases hc with
    | done hend => exact absurd (by omega) hend
    | delete _ _ _ =>
      rw [UdtcpServer.copiesAt, hnfds, if_pos (by decide)]
      exact List.mem_cons_self
    | keep _ hne _ => exact absurd hfd hne
  refine ⟨t₁.self, copies, ?_, hc, hcopy, fun hlegal ↦ ?_⟩
  · exact ⟨tr, tr₂, t, t₁, t', w, w', _, 0, result, i, on, h, hpass, hscan, ha, rfl, hself⟩
  · exact absurd (hlegal _ hcopy).read (by decide)

end

end Udtcp
