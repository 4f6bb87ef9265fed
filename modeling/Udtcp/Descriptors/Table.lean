import Udtcp.Descriptors.Files
import Udtcp.Table.Filter

/-!
# The descriptors a server holds

The three sockets of a server and one for each entry of its table that is not marked. What the table
says of them is changed by an entry that is added, marked or deleted, and by nothing else.
-/

namespace Udtcp

/-- Exactly the numbers of a list are open, each standing there once, and no call named another. -/
structure Files.Opens (k : Files) (fds : List Fd) : Prop where
  sound : k.sound = true
  nodup : fds.Nodup
  nonneg : ∀ fd ∈ fds, 0 ≤ fd
  isSome_iff : ∀ fd, (k.state fd).isSome ↔ fd ∈ fds

namespace Files.Opens

variable {k : Files} {fds fds' : List Fd} {fd : Fd}

/-- Nothing is open in the beginning. -/
theorem start : Files.Opens (.start none) [] :=
  ⟨rfl, List.nodup_nil, nofun, fun _ ↦ by simp [Interaction.Custody.start]⟩

/-- The order of the open descriptors does not matter. -/
theorem perm (h : k.Opens fds) (hp : fds.Perm fds') : k.Opens fds' :=
  ⟨h.sound, hp.nodup_iff.mp h.nodup, fun fd hfd ↦ h.nonneg fd (hp.mem_iff.mpr hfd),
    fun fd ↦ (h.isSome_iff fd).trans hp.mem_iff⟩

/-- The number `-1` is never open. -/
theorem ne_of_mem (h : k.Opens fds) (hfd : fd ∈ fds) : fd ≠ -1 := by
  rintro rfl
  exact absurd (h.nonneg _ hfd) (by decide)

/-- One more number is handed out. -/
theorem cons (h : k.Opens fds) (hnew : k.state fd = none) (hfd : 0 ≤ fd) (flags : Nat) :
    (k.set fd (some flags)).Opens (fd :: fds) := by
  have hnot : fd ∉ fds := fun hmem ↦ by
    have hopen := (h.isSome_iff fd).mpr hmem
    rw [hnew] at hopen
    cases hopen
  refine ⟨h.sound, List.nodup_cons.mpr ⟨hnot, h.nodup⟩, List.forall_mem_cons.mpr ⟨hfd, h.nonneg⟩,
    fun f ↦ ?_⟩
  by_cases hf : f = fd
  · rw [hf, Files.set_self]
    exact iff_of_true rfl List.mem_cons_self
  · rw [Files.set_of_ne hf, h.isSome_iff, List.mem_cons, or_iff_right hf]

/-- An open number gets other flags. -/
theorem flag (h : k.Opens fds) (hfd : fd ∈ fds) (flags : Nat) :
    (k.set fd (some flags)).Opens fds := by
  refine ⟨h.sound, h.nodup, h.nonneg, fun f ↦ ?_⟩
  by_cases hf : f = fd
  · rw [hf, Files.set_self]
    exact iff_of_true rfl hfd
  · rw [Files.set_of_ne hf, h.isSome_iff]

/-- The first number of the list is closed. -/
theorem tail (h : k.Opens (fd :: fds)) : (k.set fd none).Opens fds := by
  obtain ⟨hnot, hnodup⟩ := List.nodup_cons.mp h.nodup
  refine ⟨h.sound, hnodup, fun f hf ↦ h.nonneg f (List.mem_cons_of_mem _ hf), fun f ↦ ?_⟩
  by_cases hf : f = fd
  · rw [hf, Files.set_self]
    exact iff_of_false Bool.false_ne_true hnot
  · rw [Files.set_of_ne hf, h.isSome_iff, List.mem_cons, or_iff_right hf]

/-- What is listed is open. -/
theorem isSome (h : k.Opens fds) (hfd : fd ∈ fds) : (k.state fd).isSome := (h.isSome_iff fd).mpr hfd

/-- Nothing is open, and no call named a number that was not. -/
theorem state_of_nil (h : k.Opens []) (fd : Fd) : k.state fd = none := by
  have hnot : ¬ (k.state fd).isSome := fun hopen ↦
    List.not_mem_nil ((h.isSome_iff fd).mp hopen)
  simpa using hnot

end Files.Opens

section

variable {m : Nat}

namespace UdtcpServer

/-- The three sockets of a server: the one it accepts on, the one it receives datagrams on and the
one it sends datagrams from. -/
def ownFds (s : UdtcpServer m) : List Fd :=
  [s.serverInfos.tcpSocket, s.serverInfos.udpServerSocket, s.serverInfos.udpClientSocket]

/-- The descriptors in the table behind the first two, in order; a marked entry has none. -/
def clientFds (s : UdtcpServer m) : List Fd :=
  ((List.range' 2 (s.pollNfds - 2)).map fun i ↦ (s.pollFds i).fd).filter (· ≠ -1)

/-- No entry is marked. -/
def Settled (s : UdtcpServer m) : Prop := ∀ i, 2 ≤ i → i < s.pollNfds → (s.pollFds i).fd ≠ -1

variable {s s' : UdtcpServer m}

/-- The descriptors of the clients are those in the live entries. -/
theorem mem_clientFds {fd : Fd} : fd ∈ s.clientFds ↔
    fd ≠ -1 ∧ ∃ i, 2 ≤ i ∧ i < s.pollNfds ∧ (s.pollFds i).fd = fd := by
  have hrange (i : Nat) : i ∈ List.range' 2 (s.pollNfds - 2) ↔ 2 ≤ i ∧ i < s.pollNfds := by
    rw [List.mem_range'_1]
    omega
  simp only [clientFds, List.mem_filter, List.mem_map, hrange, decide_eq_true_eq]
  rw [and_comm]
  simp only [and_assoc]

private theorem clientFds_congr (hn : s'.pollNfds = s.pollNfds)
    (hfds : ∀ i < s.pollNfds, (s'.pollFds i).fd = (s.pollFds i).fd) :
    s'.clientFds = s.clientFds := by
  rw [clientFds, clientFds, hn]
  congr 1
  refine List.map_congr_left fun i hi ↦ hfds i ?_
  have hrange := List.mem_range'_1.mp hi
  omega

/-- A new entry comes last. -/
theorem clientFds_enter {r : UdtcpInfos} (hn : 2 ≤ s.pollNfds) (hfd : r.tcpSocket ≠ -1) :
    (s.enter s.pollNfds r).clientFds = s.clientFds ++ [r.tcpSocket] := by
  have hlen : s.pollNfds + 1 - 2 = (s.pollNfds - 2) + 1 := by omega
  have hlast : 2 + (s.pollNfds - 2) = s.pollNfds := by omega
  change ((List.range' 2 (s.pollNfds + 1 - 2)).map fun i ↦
    (Function.update s.pollFds s.pollNfds _ i).fd).filter (· ≠ -1) = _
  rw [hlen, List.range'_1_concat, List.map_append, List.filter_append, hlast]
  congr 1
  · rw [clientFds]
    congr 1
    refine List.map_congr_left fun i hi ↦ ?_
    have hrange := List.mem_range'_1.mp hi
    rw [Function.update_of_ne (by omega)]
  · simp [hfd]

/-- A mark takes one descriptor away. -/
theorem clientFds_mark {i : Nat} (hlow : 2 ≤ i) (hi : i < s.pollNfds)
    (hfd : (s.pollFds i).fd ≠ -1) : s.clientFds.Perm
      ((s.pollFds i).fd :: (s.modifyPollFd i fun p ↦ { p with fd := -1 }).clientFds) := by
  -- in front of the entry, the entry, and behind it
  have hsplit : List.range' 2 (s.pollNfds - 2) =
      List.range' 2 (i - 2) ++ i :: List.range' (i + 1) (s.pollNfds - i - 1) := by
    have hlen : s.pollNfds - 2 = (i - 2) + ((s.pollNfds - i - 1) + 1) := by omega
    have hmid : 2 + (i - 2) = i := by omega
    rw [hlen, ← List.range'_append_1, hmid, List.range'_succ]
  have hother {j : Nat} (hj : j ≠ i) :
      ((s.modifyPollFd i fun p ↦ { p with fd := -1 }).pollFds j).fd = (s.pollFds j).fd := by
    change (Function.update s.pollFds i _ j).fd = _
    rw [Function.update_of_ne hj]
  have hmarked : ((s.modifyPollFd i fun p ↦ { p with fd := -1 }).pollFds i).fd = -1 := by
    change (Function.update s.pollFds i _ i).fd = _
    rw [Function.update_self]
  have hfront : (List.range' 2 (i - 2)).map (fun j ↦
      ((s.modifyPollFd i fun p ↦ { p with fd := -1 }).pollFds j).fd) =
        (List.range' 2 (i - 2)).map fun j ↦ (s.pollFds j).fd :=
    List.map_congr_left fun j hj ↦ hother (by have hrange := List.mem_range'_1.mp hj; omega)
  have hback : (List.range' (i + 1) (s.pollNfds - i - 1)).map (fun j ↦
      ((s.modifyPollFd i fun p ↦ { p with fd := -1 }).pollFds j).fd) =
        (List.range' (i + 1) (s.pollNfds - i - 1)).map fun j ↦ (s.pollFds j).fd :=
    List.map_congr_left fun j hj ↦ hother (by have hrange := List.mem_range'_1.mp hj; omega)
  have hnew : (s.modifyPollFd i fun p ↦ { p with fd := -1 }).clientFds =
      ((List.range' 2 (i - 2)).map fun j ↦ (s.pollFds j).fd).filter (· ≠ -1) ++
        ((List.range' (i + 1) (s.pollNfds - i - 1)).map fun j ↦ (s.pollFds j).fd).filter
          (· ≠ -1) := by
    change ((List.range' 2 (s.pollNfds - 2)).map _).filter _ = _
    rw [hsplit, List.map_append, List.map_cons, hfront, hback, List.filter_append, hmarked]
    simp
  rw [hnew, clientFds, hsplit, List.map_append, List.map_cons, List.filter_append,
    List.filter_cons_of_pos (by simpa using hfd)]
  exact List.perm_middle

/-- The compaction takes nothing away, and leaves no mark. -/
theorem clientFds_compact (hn : 2 ≤ s.pollNfds) : s.compact.clientFds = s.clientFds := by
  obtain ⟨-, -, hslots, -⟩ :=
    UdtcpServer.compactFrom_spec (s := s) (Nat.le_add_right s.pollNfds 2) hn
  have hfds (s : UdtcpServer m) : (List.range' 2 (s.pollNfds - 2)).map (fun i ↦ (s.pollFds i).fd) =
      (s.slotsFrom 2).map fun e ↦ e.1.fd := by
    rw [slotsFrom, List.map_map]
    rfl
  have hfilter : ((s.slotsFrom 2).filter Unmarked).map (fun e ↦ e.1.fd) =
      ((s.slotsFrom 2).map fun e ↦ e.1.fd).filter (· ≠ -1) := by
    rw [List.filter_map]
    rfl
  have hcompact : s.compact.slotsFrom 2 = (s.slotsFrom 2).filter Unmarked := hslots
  rw [clientFds, clientFds, hfds, hfds, hcompact, hfilter, List.filter_filter]
  simp

end UdtcpServer

/-- The server against the descriptors: beside some others its own three and those of its table are
open, the ones it waits on do not wait, and each record goes with its entry. -/
structure Tends (s : UdtcpServer m) (k : Files) (more : List Fd) : Prop where
  opens : k.Opens (more ++ (s.ownFds ++ s.clientFds))
  pollNfds : 2 ≤ s.pollNfds
  listener : (s.pollFds 0).fd = s.serverInfos.tcpSocket
  receiver : (s.pollFds 1).fd = s.serverInfos.udpServerSocket
  accepting : Nonblocking (k.state s.serverInfos.tcpSocket)
  receiving : Nonblocking (k.state s.serverInfos.udpServerSocket)
  waiting : ∀ fd ∈ s.clientFds, Nonblocking (k.state fd)
  linked : ∀ i, 2 ≤ i → i < s.pollNfds → (s.pollFds i).fd ≠ -1 →
    (s.infos i).tcpSocket = (s.pollFds i).fd ∧
      (s.infos i).udpServerSocket = s.serverInfos.udpClientSocket

namespace Tends

variable {s s' : UdtcpServer m} {k : Files} {more : List Fd} {fd : Fd} {i : Nat}

/-- Only the descriptors in the entries and the records in the table matter. -/
theorem congr (h : Tends s k more) (hn : s'.pollNfds = s.pollNfds)
    (hfds : ∀ i < s.pollNfds, (s'.pollFds i).fd = (s.pollFds i).fd)
    (hinfos : ∀ i < s.pollNfds, s'.infos i = s.infos i) : Tends s' k more := by
  have hlen := h.pollNfds
  have h₀ : s'.serverInfos = s.serverInfos := hinfos 0 (by omega)
  have hclients : s'.clientFds = s.clientFds := UdtcpServer.clientFds_congr hn hfds
  have hown : s'.ownFds = s.ownFds := by rw [UdtcpServer.ownFds, h₀]; rfl
  refine ⟨?_, hn ▸ h.pollNfds, ?_, ?_, ?_, ?_, ?_, fun i hlow hi hfd ↦ ?_⟩
  · rw [hown, hclients]
    exact h.opens
  · rw [hfds 0 (by omega), h₀]
    exact h.listener
  · rw [hfds 1 (by omega), h₀]
    exact h.receiver
  · rw [h₀]
    exact h.accepting
  · rw [h₀]
    exact h.receiving
  · rw [hclients]
    exact h.waiting
  · rw [hn] at hi
    rw [hfds i hi] at hfd ⊢
    rw [hinfos i hi, h₀]
    exact h.linked i hlow hi hfd

/-- Records behind the table may change. -/
theorem modifyInfos (h : Tends s k more) (hi : s.pollNfds ≤ i) (f : UdtcpInfos → UdtcpInfos) :
    Tends (s.modifyInfos i f) k more :=
  h.congr rfl (fun _ _ ↦ rfl) fun _ hj ↦ s.infos_modifyInfos_of_ne f (by omega)

/-- What `poll` reports may change. -/
theorem setRevents (h : Tends s k more) (revents : Nat → UInt16) :
    Tends (s.setRevents revents) k more := by
  refine h.congr rfl (fun i hi ↦ ?_) fun _ _ ↦ rfl
  have hentry : (s.setRevents revents).pollFds i = { s.pollFds i with revents := revents i } :=
    if_pos hi
  rw [hentry]

/-- The descriptor of an entry that is not marked is one of those in the table. -/
theorem mem_clientFds (h : Tends s k more) (hlow : 2 ≤ i) (hi : i < s.pollNfds)
    (hfd : (s.pollFds i).fd ≠ -1) : (s.infos i).tcpSocket ∈ s.clientFds := by
  rw [(h.linked i hlow hi hfd).1]
  exact UdtcpServer.mem_clientFds.mpr ⟨hfd, i, hlow, hi, rfl⟩

/-- The own sockets are open. -/
theorem isSome_of_own (h : Tends s k more) (hfd : fd ∈ s.ownFds) : (k.state fd).isSome :=
  h.opens.isSome (List.mem_append_right _ (List.mem_append_left _ hfd))

/-- The polled descriptors are open, if no entry is marked. -/
theorem isSome_of_polled (h : Tends s k more) (hset : s.Settled) :
    ∀ p ∈ s.polled, (k.state p.fd).isSome := by
  refine List.forall_mem_map.mpr fun i hi ↦ ?_
  have hi := List.mem_range.mp hi
  match i with
  | 0 =>
    rw [h.listener]
    exact h.isSome_of_own (by simp [UdtcpServer.ownFds])
  | 1 =>
    rw [h.receiver]
    exact h.isSome_of_own (by simp [UdtcpServer.ownFds])
  | i + 2 =>
    refine (h.waiting _ (UdtcpServer.mem_clientFds.mpr ⟨?_, i + 2, ?_, hi, rfl⟩)).isSome
    · exact hset _ (by omega) hi
    · omega

private theorem of_files (h : Tends s k more) {k' : Files} {more' : List Fd}
    (hopens : k'.Opens (more' ++ (s.ownFds ++ s.clientFds)))
    (hsame : ∀ f ∈ s.ownFds ++ s.clientFds, k'.state f = k.state f) : Tends s k' more' := by
  have hown {f : Fd} (hf : f ∈ s.ownFds) : k'.state f = k.state f :=
    hsame f (List.mem_append_left _ hf)
  refine ⟨hopens, h.pollNfds, h.listener, h.receiver, ?_, ?_, fun f hf ↦ ?_, h.linked⟩
  · rw [hown (by simp [UdtcpServer.ownFds])]
    exact h.accepting
  · rw [hown (by simp [UdtcpServer.ownFds])]
    exact h.receiving
  · rw [hsame f (List.mem_append_right _ hf)]
    exact h.waiting f hf

/-- A connection is taken, and is none of the table's yet. -/
theorem take (h : Tends s k []) {fd : Descriptor} (hnew : k.state fd.val = none) :
    Tends s (k.set fd.val (some 0)) [fd.val] := by
  refine h.of_files (h.opens.cons hnew fd.property 0) fun f hf ↦ Files.set_of_ne ?_ _
  rintro rfl
  have hopen := h.opens.isSome hf
  rw [hnew] at hopen
  cases hopen

private theorem ne_of_mem (h : Tends s k [fd]) : ∀ f ∈ s.ownFds ++ s.clientFds, f ≠ fd := by
  rintro f hf rfl
  exact (List.nodup_cons.mp h.opens.nodup).1 hf

/-- Its flags may be changed. -/
theorem flag (h : Tends s k [fd]) (flags : Nat) : Tends s (k.set fd (some flags)) [fd] :=
  h.of_files (h.opens.flag List.mem_cons_self flags) fun f hf ↦
    Files.set_of_ne (h.ne_of_mem f hf) _

/-- It may be closed. -/
theorem giveBack (h : Tends s k [fd]) : Tends s (k.set fd none) [] :=
  h.of_files h.opens.tail fun f hf ↦ Files.set_of_ne (h.ne_of_mem f hf) _

/-- It may be entered in the table, with its record. -/
theorem enter (h : Tends s k [fd]) (hfd : Nonblocking (k.state fd)) {r : UdtcpInfos}
    (htcp : r.tcpSocket = fd) (hudp : r.udpServerSocket = s.serverInfos.udpClientSocket) :
    Tends (s.enter s.pollNfds r) k [] := by
  have hlen := h.pollNfds
  have hne : fd ≠ -1 := h.opens.ne_of_mem List.mem_cons_self
  have hinfos (i : Nat) (hi : i < s.pollNfds) : (s.enter s.pollNfds r).infos i = s.infos i :=
    Function.update_of_ne (by omega) _ _
  have hpolls (i : Nat) (hi : i < s.pollNfds) : (s.enter s.pollNfds r).pollFds i = s.pollFds i :=
    Function.update_of_ne (by omega) _ _
  have h₀ : (s.enter s.pollNfds r).serverInfos = s.serverInfos := hinfos 0 (by omega)
  have hown : (s.enter s.pollNfds r).ownFds = s.ownFds := by
    rw [UdtcpServer.ownFds, h₀]
    rfl
  have hclients : (s.enter s.pollNfds r).clientFds = s.clientFds ++ [fd] := by
    rw [UdtcpServer.clientFds_enter hlen (htcp ▸ hne), htcp]
  refine ⟨?_, Nat.le_succ_of_le hlen, ?_, ?_, ?_, ?_, ?_, fun i hlow hi hmark ↦ ?_⟩
  · rw [hown, hclients]
    refine h.opens.perm ?_
    rw [List.nil_append, ← List.append_assoc]
    exact (List.perm_append_singleton fd _).symm
  · rw [hpolls 0 (by omega), h₀]
    exact h.listener
  · rw [hpolls 1 (by omega), h₀]
    exact h.receiver
  · rw [h₀]
    exact h.accepting
  · rw [h₀]
    exact h.receiving
  · rw [hclients]
    exact List.forall_mem_append.mpr ⟨h.waiting, List.forall_mem_singleton.mpr hfd⟩
  · have hi : i < s.pollNfds + 1 := hi
    rw [h₀]
    by_cases hlast : i = s.pollNfds
    · subst hlast
      have hself : (s.enter s.pollNfds r).infos s.pollNfds = r := Function.update_self ..
      have hentry : ((s.enter s.pollNfds r).pollFds s.pollNfds).fd = r.tcpSocket := by
        change (Function.update s.pollFds s.pollNfds _ s.pollNfds).fd = _
        rw [Function.update_self]
      rw [hself, hentry]
      exact ⟨rfl, hudp⟩
    · rw [hpolls i (by omega)] at hmark ⊢
      rw [hinfos i (by omega)]
      exact h.linked i hlow (by omega) hmark

/-- An entry may be marked; its descriptor is none of the table's from then on. -/
theorem mark (h : Tends s k []) (hlow : 2 ≤ i) (hi : i < s.pollNfds)
    (hfd : (s.pollFds i).fd ≠ -1) :
    Tends (s.modifyPollFd i fun p ↦ { p with fd := -1 }) k [(s.pollFds i).fd] := by
  have hperm := UdtcpServer.clientFds_mark hlow hi hfd
  have hentry (j : Nat) (hj : j ≠ i) :
      (s.modifyPollFd i fun p ↦ { p with fd := -1 }).pollFds j = s.pollFds j :=
    Function.update_of_ne hj _ _
  refine ⟨h.opens.perm ((hperm.append_left _).trans List.perm_middle), h.pollNfds, ?_, ?_,
    h.accepting, h.receiving, fun f hf ↦ ?_, fun j hj hjn hmark ↦ ?_⟩
  · rw [hentry 0 (by omega)]
    exact h.listener
  · rw [hentry 1 (by omega)]
    exact h.receiver
  · exact h.waiting f (hperm.mem_iff.mpr (List.mem_cons_of_mem _ hf))
  · have hji : j ≠ i := by
      rintro rfl
      refine hmark ?_
      change (Function.update s.pollFds j _ j).fd = _
      rw [Function.update_self]
    rw [hentry j hji] at hmark ⊢
    exact h.linked j hj hjn hmark

/-- The marked entries may be deleted, and then none is left. -/
theorem compact (h : Tends s k []) : Tends s.compact k [] ∧ s.compact.Settled := by
  obtain ⟨-, hlen, -, hbelow⟩ :=
    UdtcpServer.compactFrom_spec (s := s) (Nat.le_add_right s.pollNfds 2) h.pollNfds
  have hlen : 2 ≤ s.compact.pollNfds := hlen
  have hfront (j : Nat) (hj : j < 2) :
      s.compact.pollFds j = s.pollFds j ∧ s.compact.infos j = s.infos j := by
    have hslot : s.compact.slot j = s.slot j := hbelow j hj
    exact Prod.mk.inj hslot
  have h₀ : s.compact.serverInfos = s.serverInfos := (hfront 0 (by decide)).2
  have hown : s.compact.ownFds = s.ownFds := by
    rw [UdtcpServer.ownFds, h₀]
    rfl
  have hclients := UdtcpServer.clientFds_compact h.pollNfds
  refine ⟨⟨?_, hlen, ?_, ?_, ?_, ?_, ?_, fun i hlow hi hmark ↦ ?_⟩,
    fun i hlow hi ↦ (UdtcpServer.exists_slot_compact h.pollNfds hlow hi).1⟩
  · rw [hown, hclients]
    exact h.opens
  · rw [(hfront 0 (by decide)).1, h₀]
    exact h.listener
  · rw [(hfront 1 (by decide)).1, h₀]
    exact h.receiver
  · rw [h₀]
    exact h.accepting
  · rw [h₀]
    exact h.receiving
  · rw [hclients]
    exact h.waiting
  · obtain ⟨-, j, hj, hjn, hslot⟩ := UdtcpServer.exists_slot_compact h.pollNfds hlow hi
    obtain ⟨hpoll, hinfo⟩ := Prod.mk.inj hslot
    rw [hpoll] at hmark ⊢
    rw [hinfo, h₀]
    exact h.linked j hj hjn hmark

end Tends

end

end Udtcp
