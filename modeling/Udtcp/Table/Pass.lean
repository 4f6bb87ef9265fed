import Udtcp.Table.Steps

/-!
# One pass over the table

What every step of `udtcp_server_poll` does to the rows: an accept appends one or none, a
reception none, a disconnection marks the one that is served. Together with the compaction this
carries the table from the end of one pass to the end of the next.
-/

namespace Udtcp

open Interaction Routine

/-- Sightings in two parts are allowed one part after the other. -/
theorem Watch.sees_append {w w' : Watch} {xs ys : List Sighting} :
    w.Sees (xs ++ ys) w' ↔ ∃ w₁, w.Sees xs w₁ ∧ w₁.Sees ys w' := by
  induction xs generalizing w with
  | nil => simp
  | cons x xs ih => simp only [List.cons_append, sees_cons, ih, and_assoc, exists_and_left]

/-- The rows of a table without marks. -/
def rowsOf (live : List Connection) : List Row := live.map (⟨·, false⟩)

/-- Rows made of connections are all live. -/
@[simp] theorem liveOf_rowsOf (live : List Connection) : liveOf (rowsOf live) = live := by
  induction live with
  | nil => rfl
  | cons c live ih => exact congrArg (c :: ·) ih

private theorem unmarked_eq_rowsOf (rows : List Row) : unmarked rows = rowsOf (liveOf rows) := by
  induction rows with
  | nil => rfl
  | cons row rows ih =>
    obtain ⟨c, gone⟩ := row
    cases gone with
    | true => exact ih
    | false => exact congrArg (⟨c, false⟩ :: ·) ih

/-- Rows made of connections have their numbers. -/
theorem numbersOf_rowsOf (live : List Connection) :
    numbersOf (rowsOf live) = live.map (·.number) := by
  simp [numbersOf, rowsOf, Function.comp_def]

/-- Every row whose connection was handed to the user stands where it stood then. -/
def Placed (rows : List Row) : Prop :=
  ∀ (k : Nat) (row : Row) (slot : Nat) (q : UdtcpInfos), rows[k]? = some row →
    row.conn.handle = some (slot, q) → slot = 2 + k

section

variable {m : Nat} {t t' : Thread (UdtcpServer m)} {tr : Trace posix} {n : Int}

-- Data of a slot handed to the user, if anything, and nothing an observer of connections sees.
private def Overlooked (s : UdtcpServer m) (slots : Nat → Prop) (e : Event posix) : Prop :=
  sightingOf e.call e.reply = none ∧ ∀ cb, callbackOf e.call = some cb →
    ∃ slot, slots slot ∧ cb.DataOf slot (s.infos slot)

private theorem receiverCalls_unseen (s : UdtcpServer m) (slots : Nat → Prop) (fd : Fd) :
    ReceiverCalls (Overlooked s slots) fd where
  poll r := ⟨by cases r <;> rfl, nofun⟩
  recvWord r := ⟨by cases r <;> rfl, nofun⟩
  recvBuffer _ _ _ _ r := ⟨by cases r <;> rfl, nofun⟩
  peek r := ⟨by cases r <;> rfl, nofun⟩
  take _ _ _ _ r := ⟨by cases r <;> rfl, nofun⟩
  newBuffer _ r := ⟨by cases r <;> rfl, nofun⟩
  freeBuffer _ _ := ⟨rfl, nofun⟩

-- What a reception comes to for the table: nothing but data of the given slots.
private structure Received (slots : Nat → Prop) (s s' : UdtcpServer m) (tr : Trace posix) :
    Prop where
  unseen : ∀ e ∈ tr, Overlooked s slots e
  buffer : ∃ b, s' = { s with buffer := b }

private theorem received_receiveTcp {slot : Nat} (h : Exec (receiveTcp slot) t tr n t') :
    Received (· = slot) t.self t'.self tr := by
  obtain ⟨u, hu, rfl⟩ := exec_receiveTcp.mp h
  refine ⟨emits_receiveTcpWith (receiverCalls_unseen _ _ _) ?_ _ _ _ _ _ hu, _, rfl⟩
  intro f hf data v
  unfold UdtcpServer.tcpDeliver at hf
  split at hf
  · cases hf
    refine ⟨rfl, fun cb hcb ↦ ⟨slot, rfl, ?_⟩⟩
    cases hcb
    exact ⟨rfl, rfl⟩
  · cases hf

private theorem received_receiveUdp (h : Exec receiveUdp t tr n t') :
    Received (fun slot ↦ 2 ≤ slot ∧ slot < t.self.pollNfds) t.self t'.self tr := by
  obtain ⟨u, hu, rfl⟩ := exec_receiveUdp.mp h
  refine ⟨emits_receiveUdpWith (receiverCalls_unseen _ _ _).toDatagramCalls ?_
    _ _ _ _ _ hu, _, rfl⟩
  intro addr f hf data v
  obtain ⟨slot, hslot, hroute⟩ := Option.map_eq_some_iff.mp hf
  have hmem := List.mem_range'_1.mp (List.mem_of_find?_eq_some hslot)
  split at hroute
  · cases hroute
    refine ⟨rfl, fun cb hcb ↦ ⟨slot, ⟨hmem.1, by omega⟩, ?_⟩⟩
    cases hcb
    exact ⟨rfl, rfl⟩
  · cases hroute

private theorem received_drain {slots : Nat → Prop} {fuel : Nat} {body : Proc (UdtcpServer m) Int}
    {again : Int → Bool} (hbody : ∀ t₁ tr n t₂, (∃ b, t₁.self = { t.self with buffer := b }) →
      Exec body t₁ tr n t₂ → Received slots t₁.self t₂.self tr)
    (h : Exec (drain fuel body again) t tr n t') : Received slots t.self t'.self tr := by
  have hflag (on : Bool) : Overlooked t.self slots ⟨.pollLoop, on⟩ := ⟨rfl, nofun⟩
  obtain ⟨done, on, rfl, hdone⟩ := exec_drain_invariant
    (fun _ t₁ tr ↦ Received slots t.self t₁.self tr)
    (fun _ _ _ hfirst ↦ hbody _ _ _ _ ⟨_, rfl⟩ hfirst)
    (fun _ t₁ tr tr' _ t₂ hI _ hround ↦ by
      obtain ⟨hunseen, b, hb⟩ := hI
      obtain ⟨hunseen', b', hb'⟩ := hbody _ _ _ _ ⟨b, hb⟩ hround
      rw [hb] at hunseen' hb'
      refine ⟨fun e he ↦ ?_, b', hb'⟩
      rcases List.mem_append.mp he with he | he
      · exact hunseen e he
      · rcases List.mem_cons.mp he with rfl | he
        · exact hflag true
        · exact hunseen' e he) h
  refine ⟨fun e he ↦ ?_, hdone.buffer⟩
  rcases List.mem_append.mp he with he | he
  · exact hdone.unseen e he
  · rw [List.mem_singleton.mp he]
    exact hflag on

private theorem Received.step {slots : Nat → Prop} {w : Watch} {s s' : UdtcpServer m}
    {rows : List Row} (h : Received slots s s' tr)
    (hslots : ∀ slot, slots slot → ∃ (k : Nat) (c : Connection), slot = 2 + k ∧
      rows[k]? = some ⟨c, false⟩) :
    sightings tr = [] ∧ TableKept s s' ∧ RowStep w s rows tr w s' rows := by
  have hseen : sightings tr = [] := sightings_eq_nil fun e he ↦ (h.unseen e he).1
  obtain ⟨b, rfl⟩ := h.buffer
  refine ⟨hseen, tableKept_buffer s b, .idle (tableKept_buffer s b) rfl (fun ρ ↦ ?_) ?_⟩
  · rw [hseen]
    exact ⟨rfl, rfl⟩
  · intro cb hcb
    obtain ⟨e, he, hcb⟩ := List.mem_filterMap.mp hcb
    obtain ⟨slot, hslot, hdata⟩ := (h.unseen e he).2 cb hcb
    obtain ⟨k, c, rfl, hk⟩ := hslots slot hslot
    exact ⟨k, c, hk, hdata⟩

/-- The middle of a pass that began with observer `w₀`: the rows match the arrays, marks are below
the index and recorded, and the rows are those of the beginning and one for each handshake since. -/
structure Scan (w₀ w : Watch) (s : UdtcpServer m) (rows : List Row) (i : Nat) (marked : Bool) :
    Prop where
  table : Table w s rows
  marks : ∀ (k : Nat) (row : Row), rows[k]? = some row → row.gone = true → 2 + k < i ∧ marked = true
  completed : w₀.completed ≤ w.completed
  numbers : numbersOf rows = w₀.live.map (·.number) ++
    List.range' (w₀.completed + 1) (w.completed - w₀.completed)
  placed : Placed (rowsOf w₀.live) → Placed rows

/-- A pass begins without marks. -/
theorem Table.scan {w : Watch} {s : UdtcpServer m} (h : Table w s (rowsOf w.live)) (i : Nat) :
    Scan w w s (rowsOf w.live) i false where
  table := h
  marks k row hk hgone := by
    rw [rowsOf, List.getElem?_map] at hk
    obtain ⟨c, -, rfl⟩ := Option.map_eq_some_iff.mp hk
    cases hgone
  completed := Nat.le_refl _
  numbers := by rw [numbersOf_rowsOf, Nat.sub_self, List.range'_zero, List.append_nil]
  placed := id

namespace Scan

variable {w₀ w w' : Watch} {s s' : UdtcpServer m} {rows : List Row} {i j : Nat} {marked : Bool}

/-- What leaves the rows alone leaves the scan alone. -/
theorem of_table (h : Scan w₀ w s rows i marked) (ht : Table w' s' rows)
    (hc : w'.completed = w.completed) : Scan w₀ w' s' rows i marked where
  table := ht
  marks := h.marks
  completed := by rw [hc]; exact h.completed
  numbers := by rw [hc]; exact h.numbers
  placed := h.placed

/-- A scan that has come as far as `i` has not passed what is behind. -/
theorem mono (h : Scan w₀ w s rows i marked) (hij : i ≤ j) : Scan w₀ w s rows j marked :=
  { h with marks := fun k row hk hgone ↦
      ⟨Nat.lt_of_lt_of_le (h.marks k row hk hgone).1 hij, (h.marks k row hk hgone).2⟩ }

private theorem append (h : Scan w₀ w s rows i marked) {c : Connection}
    (ht : Table w' s' (rows ++ [⟨c, false⟩])) (hc : w'.completed = w.completed + 1)
    (hnumber : c.number = w.completed + 1)
    (hhandle : ∀ slot q, c.handle = some (slot, q) → slot = 2 + rows.length) :
    Scan w₀ w' s' (rows ++ [⟨c, false⟩]) i marked where
  table := ht
  marks k row hk hgone := by
    rcases getElem?_append_last hk with hk | ⟨-, hrow⟩
    · exact h.marks k row hk hgone
    · rw [← hrow] at hgone
      cases hgone
  completed := by rw [hc]; exact Nat.le_succ_of_le h.completed
  numbers := by
    have hle := h.completed
    rw [numbersOf_append, h.numbers, hc, Nat.succ_sub hle, List.range'_1_concat, List.append_assoc]
    congr 2
    change [c.number] = _
    rw [hnumber]
    congr 1
    omega
  placed hplaced k row slot q hk hq := by
    rcases getElem?_append_last hk with hk | ⟨rfl, hrow⟩
    · exact h.placed hplaced k row slot q hk hq
    · rw [← hrow] at hq
      exact hhandle slot q hq

/-- The entries of the server's own sockets are in front, where nothing is marked yet. -/
theorem own_slot (h : Scan w₀ w s rows i marked) (hi : i < s.pollNfds)
    (hfd : (s.pollFds i).fd ∈ w.own) : i < 2 := by
  have hnfds := h.table.pollNfds
  by_cases hlt : i < 2
  · exact hlt
  · obtain ⟨k, rfl⟩ : ∃ k, i = 2 + k := ⟨i - 2, by omega⟩
    obtain ⟨⟨c, gone⟩, hk⟩ : ∃ row, rows[k]? = some row := ⟨_, List.getElem?_eq_getElem (by omega)⟩
    cases gone with
    | true => exact absurd (h.marks k _ hk rfl).1 (Nat.lt_irrefl _)
    | false =>
      have hentry : Shows (s.pollFds (2 + k)) (s.infos (2 + k)) c := h.table.entries k _ hk
      have hmem : c ∈ w.live := by
        rw [h.table.live]
        exact List.mem_map_of_mem (List.mem_filter.mpr ⟨List.mem_of_getElem? hk, rfl⟩)
      exact absurd (hentry.fd ▸ hfd) (h.table.apart c hmem).2

private theorem unmarked_of_lt (h : Scan w₀ w s rows i marked) (hi : i < 2) :
    ∀ row ∈ rows, row.gone = false := by
  intro row hrow
  obtain ⟨k, hk⟩ := List.getElem?_of_mem hrow
  cases hgone : row.gone with
  | false => rfl
  | true =>
    have hlt := (h.marks k row hk hgone).1
    omega

/-- **An accept** appends the connection whose handshake it completed, or nothing. -/
theorem accept (h : Scan w₀ w t.self rows i marked) (hi : i < 2)
    (hexec : Exec acceptClient t tr n t') (hs : w.Sees (sightings tr) w') :
    ∃ rows', Scan w₀ w' t'.self rows' i marked ∧
      RowSteps w t.self rows tr w' t'.self rows' := by
  have hnfds := h.table.pollNfds
  have hcalls := callbacksOf_acceptClient hexec
  by_cases hn : n = -1
  · subst hn
    obtain ⟨hkept, hseen⟩ := sightings_acceptClient_failed hexec
    have hsame : (w'.own = w.own ∧ w'.live = w.live ∧ w'.completed = w.completed) ∧
        callbacksOf tr = [] ∧ ∀ ρ : Roll, (ρ.after (sightings tr)).present = ρ.present ∧
          (ρ.after (sightings tr)).completed = ρ.completed := by
      rw [hcalls]
      rcases hseen with hseen | ⟨fd, addr, hseen | ⟨r, bs, -, hlen, hseen⟩⟩
      · rw [hseen] at hs ⊢
        exact ⟨hs ▸ ⟨rfl, rfl, rfl⟩, rfl, fun ρ ↦ ⟨rfl, rfl⟩⟩
      · rw [hseen] at hs ⊢
        obtain ⟨-, -, rfl⟩ := hs
        exact ⟨⟨rfl, rfl, rfl⟩, rfl, fun ρ ↦ ⟨rfl, rfl⟩⟩
      · rw [hseen] at hs ⊢
        obtain ⟨-, -, -, hs⟩ := hs
        have hrefused : (w.see (.accepted fd addr)).see (.record fd bs) =
            w.see (.accepted fd addr) := if_neg fun hc ↦ hlen hc.2
        rw [hrefused] at hs
        obtain rfl := Watch.sees_nil.mp hs
        refine ⟨⟨rfl, rfl, rfl⟩, rfl, fun ρ ↦ ?_⟩
        have hnone := (ρ.see (.accepted fd addr)).arrival_eq_none fd hlen
        simp only [Roll.after_cons, Roll.after_nil, Roll.see_of_none hnone]
        exact ⟨rfl, rfl⟩
    obtain ⟨⟨ho, hl, hc⟩, hheard, hpresent⟩ := hsame
    have htable := (h.table.of_kept hkept).of_watch ho hl hc
    refine ⟨rows, h.of_table htable hc, .single h.table
      (.idle hkept.tableKept hc hpresent ?_) htable⟩
    rw [hheard]
    nofun
  · obtain ⟨-, hfree, fd, addr, bs, name, r, hlen, hself, hseen, hlink⟩ :=
      sightings_acceptClient_done hexec hn (by omega)
    have hheard : callbacksOf tr =
        if t.self.connectCallback then [.connect t.self.pollNfds r] else [] := by
      rw [hcalls, hseen, entrySightings]
      cases name <;> cases t.self.connectCallback <;> rfl
    have hentered {w' : Watch} {handle : Option (Nat × UdtcpInfos)}
        (hc : w'.completed = w.completed + 1)
        (hshort : ∀ text, name = some text → NameFits text) : RowStep w t.self rows tr w'
          t'.self (rows ++ [⟨⟨fd.val, w.completed + 1, handle⟩, false⟩]) := by
      rw [hself]
      exact .enter hc (h.unmarked_of_lt hi) hfree hlen hseen hheard (hlink hshort)
    rw [hseen] at hs
    obtain ⟨⟨hown, hlive⟩, -, hs⟩ := hs
    have hcompleted : (w.see (.accepted fd.val addr)).see (.record fd.val bs) =
        w.complete fd.val := if_pos ⟨rfl, hlen⟩
    rw [hcompleted, entrySightings] at hs
    obtain ⟨w₁, hname, hcall⟩ := Watch.sees_append.mp hs
    have hw₁ : w₁ = w.complete fd.val ∧ ∀ text, name = some text → NameFits text := by
      cases name with
      | none => exact ⟨hname, fun _ hno ↦ by cases hno⟩
      | some text =>
        obtain ⟨hshort, rfl⟩ := hname
        refine ⟨rfl, fun text' htext ↦ ?_⟩
        cases htext
        exact hshort
    obtain ⟨rfl, hshort⟩ := hw₁
    have hr := hlink hshort
    have htable := h.table.complete hfree fd.property hown hlive hr.tcpSocket hr.id
    rw [← hself] at htable
    by_cases hcb : t.self.connectCallback
    · rw [if_pos hcb] at hcall
      obtain ⟨-, rfl⟩ := hcall
      have hinfos : t'.self.infos (2 + rows.length) = r := by
        rw [hself, ← hnfds]
        exact Function.update_self _ _ _
      have hhanded := htable.hand rfl t.self.pollNfds
      rw [hinfos] at hhanded
      refine ⟨_, h.append hhanded rfl rfl fun slot q hq ↦ ?_,
        .single h.table (hentered rfl hshort) hhanded⟩
      cases hq
      exact hnfds
    · rw [if_neg hcb] at hcall
      obtain rfl := Watch.sees_nil.mp hcall
      exact ⟨_, h.append htable rfl rfl (fun _ _ hno ↦ by cases hno),
        .single h.table (hentered rfl hshort) htable⟩

/-- A look at `poll_loop` is no step of the table. -/
theorem flag (h : Scan w₀ w s rows i marked) (on : Bool) :
    RowSteps w s rows [⟨.pollLoop, on⟩] w s rows :=
  .single h.table (.idle (.refl s) rfl (fun _ ↦ ⟨rfl, rfl⟩) nofun) h.table

/-- A drain loop over the listening socket that is under way. -/
theorem accepting (h : Scan w₀ w t.self rows i marked) (hi : i < 2)
    (hexec : Draining acceptClient (· = 0) t tr n t') (hs : w.Sees (sightings tr) w') :
    ∃ rows', Scan w₀ w' t'.self rows' i marked ∧
      RowSteps w t.self rows tr w' t'.self rows' := by
  induction hexec generalizing w' with
  | first hfirst => exact h.accept hi hfirst hs
  | round _ _ hround ih =>
    rw [sightings_append, sightings_cons] at hs
    obtain ⟨w₁, hs₁, hs₂⟩ := Watch.sees_append.mp hs
    obtain ⟨rows₁, h₁, hsteps₁⟩ := ih hs₁
    obtain ⟨rows₂, h₂, hsteps₂⟩ := h₁.accept hi hround hs₂
    exact ⟨rows₂, h₂, hsteps₁.trans ((h₁.flag true).trans hsteps₂)⟩

private theorem acceptAll {fuel : Nat} (h : Scan w₀ w t.self rows i marked) (hi : i < 2)
    (hexec : Exec (drain fuel acceptClient (· = 0)) t tr n t') (hs : w.Sees (sightings tr) w') :
    ∃ rows', Scan w₀ w' t'.self rows' i marked ∧
      RowSteps w t.self rows tr w' t'.self rows' := by
  obtain ⟨done, on, rfl, hdone⟩ := exec_drain hexec
  rw [sightings_append] at hs
  obtain ⟨w₁, hs₁, hs₂⟩ := Watch.sees_append.mp hs
  obtain rfl := Watch.sees_nil.mp hs₂
  obtain ⟨rows', h', hsteps⟩ := h.accepting hi hdone hs₁
  exact ⟨rows', h', hsteps.trans (h'.flag on)⟩

private theorem client {fuel k : Nat} {c : Connection} {now : Bool}
    (h : Scan w₀ w t.self rows (2 + k) marked) (hk : rows[k]? = some ⟨c, false⟩)
    (hexec : Exec (serveClient fuel (2 + k)) t tr now t') (hs : w.Sees (sightings tr) w') :
    ∃ rows', Scan w₀ w' t'.self rows' (2 + k + 1) (marked || now) ∧
      RowSteps w t.self rows tr w' t'.self rows' := by
  obtain ⟨tr₁, ret, t₁, tr₂, rfl, hdrain, hend⟩ := exec_serveClient hexec
  have hreceived : Received (· = 2 + k) t.self t₁.self tr₁ :=
    received_drain (fun _ _ _ _ _ hround ↦ received_receiveTcp hround) hdrain
  obtain ⟨hquiet, hkept, hstep⟩ :
      sightings tr₁ = [] ∧ TableKept t.self t₁.self ∧ RowStep w t.self rows tr₁ w t₁.self rows :=
    hreceived.step fun slot hslot ↦ ⟨k, c, hslot, hk⟩
  have ht₁ := h.table.of_tableKept hkept
  have h₁ := h.of_table ht₁ rfl
  rw [sightings_append, hquiet, List.nil_append] at hs
  rcases hend with ⟨rfl, rfl, rfl, -⟩ | ⟨rfl, hdrop, -⟩
  · obtain rfl := Watch.sees_nil.mp hs
    rw [Bool.or_false, List.append_nil]
    exact ⟨rows, h₁.mono (Nat.le_succ _), .single h.table hstep ht₁⟩
  · have hentry := h₁.table.entries k _ hk
    have hfd : (t₁.self.infos (2 + k)).tcpSocket = c.fd := hentry.tcpSocket
    obtain ⟨r, r', rest, rfl, hrest, hself⟩ := exec_dropClient hdrop
    have hseen : sightings (⟨.sys (.shutdown (t₁.self.infos (2 + k)).tcpSocket), r⟩ ::
        ⟨.sys (.close (t₁.self.infos (2 + k)).tcpSocket), r'⟩ :: rest) =
        [.shut c.fd, .closed c.fd] := by
      rw [sightings_cons, sightings_cons, hfd, hrest]
      cases t₁.self.disconnectCallback <;> rfl
    have hheard : callbacksOf (⟨.sys (.shutdown (t₁.self.infos (2 + k)).tcpSocket), r⟩ ::
        ⟨.sys (.close (t₁.self.infos (2 + k)).tcpSocket), r'⟩ :: rest) =
        if t₁.self.disconnectCallback then [.disconnect (2 + k)
          (t₁.self.infos (2 + k))] else [] := by
      rw [hrest]
      cases t₁.self.disconnectCallback <;> rfl
    have hdropped : RowStep w t₁.self rows _ { w.drop c.fd with pending := none } _ _ :=
      .drop rfl hk hseen hheard
    rw [hseen] at hs
    obtain ⟨-, -, rfl⟩ := hs
    have hmark := h₁.table.drop hk
    rw [← hself] at hmark hdropped
    have htable : Table { w.drop c.fd with pending := none } t'.self (rows.set k ⟨c, true⟩) :=
      hmark.of_watch rfl rfl rfl
    refine ⟨rows.set k ⟨c, true⟩, ⟨htable, ?_, h.completed, ?_, fun hplaced ↦ ?_⟩,
      (RowSteps.single h.table hstep ht₁).tail ht₁ hdropped htable⟩
    · intro j row hj hgone
      rw [Bool.or_true]
      by_cases hjk : j = k
      · exact ⟨by omega, rfl⟩
      · rw [List.getElem?_set_ne (Ne.symm hjk)] at hj
        exact ⟨Nat.lt_succ_of_lt (h.marks j row hj hgone).1, rfl⟩
    · exact (numbersOf_set_mark hk).trans h.numbers
    · intro j row slot q hj hq
      by_cases hjk : j = k
      · subst hjk
        obtain ⟨hlt, -⟩ := List.getElem?_eq_some_iff.mp hk
        rw [List.getElem?_set_self hlt] at hj
        cases hj
        exact h.placed hplaced j _ slot q hk hq
      · rw [List.getElem?_set_ne (Ne.symm hjk)] at hj
        exact h.placed hplaced j row slot q hj hq

private theorem datagrams {fuel : Nat} (h : Scan w₀ w t.self rows i marked) (hi : i < 2)
    (hexec : Exec (drain fuel receiveUdp (0 < ·)) t tr n t') :
    sightings tr = [] ∧ TableKept t.self t'.self ∧ RowStep w t.self rows tr w t'.self rows := by
  have hnfds := h.table.pollNfds
  have hreceived : Received (fun slot ↦ 2 ≤ slot ∧ slot < t.self.pollNfds) t.self t'.self tr := by
    refine received_drain (fun t₁ tr n t₂ ⟨b, hb⟩ hround ↦ ?_) hexec
    have hone := received_receiveUdp hround
    rwa [show t₁.self.pollNfds = t.self.pollNfds by rw [hb]] at hone
  refine hreceived.step fun slot ⟨hlow, hhigh⟩ ↦ ?_
  obtain ⟨k, rfl⟩ : ∃ k, slot = 2 + k := ⟨slot - 2, by omega⟩
  obtain ⟨⟨c, gone⟩, hk⟩ : ∃ row, rows[k]? = some row := ⟨_, List.getElem?_eq_getElem (by omega)⟩
  obtain rfl : gone = false := h.unmarked_of_lt hi _ (List.mem_of_getElem? hk)
  exact ⟨k, c, rfl, hk⟩

/-- **Serving a slot** that is in use. -/
theorem serve {fuel : Nat} {now : Bool} (h : Scan w₀ w t.self rows i marked)
    (hi : i < t.self.pollNfds) (hexec : Exec (serveSlot fuel i) t tr now t')
    (hs : w.Sees (sightings tr) w') :
    ∃ rows', Scan w₀ w' t'.self rows' (i + 1) (marked || now) ∧
      RowSteps w t.self rows tr w' t'.self rows' := by
  have hnfds := h.table.pollNfds
  rcases exec_serveSlot hexec with ⟨rfl, rfl, rfl⟩ | ⟨hlisten, rfl, n, hdrain⟩ |
    ⟨hudp, rfl, n, hdrain⟩ | ⟨hlisten, hudp, hclient⟩
  · obtain rfl := Watch.sees_nil.mp hs
    rw [Bool.or_false]
    exact ⟨rows, h.mono (Nat.le_succ _), .refl⟩
  · have hfront := h.own_slot hi (hlisten ▸ h.table.listener.2)
    rw [Bool.or_false]
    obtain ⟨rows', h', hsteps⟩ := h.acceptAll hfront hdrain hs
    exact ⟨rows', h'.mono (Nat.le_succ _), hsteps⟩
  · have hfront := h.own_slot hi (hudp ▸ h.table.receiver.2)
    obtain ⟨hquiet, hkept, hstep⟩ := h.datagrams hfront hdrain
    rw [hquiet] at hs
    obtain rfl := Watch.sees_nil.mp hs
    rw [Bool.or_false]
    have ht := h.table.of_tableKept hkept
    exact ⟨rows, (h.of_table ht rfl).mono (Nat.le_succ _), .single h.table hstep ht⟩
  · -- the first two slots hold the server's own sockets, so this is a client
    have hi₀ : i ≠ 0 := by
      rintro rfl
      exact hlisten h.table.listener.1
    have hi₁ : i ≠ 1 := by
      rintro rfl
      exact hudp h.table.receiver.1
    obtain ⟨k, rfl⟩ : ∃ k, i = 2 + k := ⟨i - 2, by omega⟩
    obtain ⟨⟨c, gone⟩, hk⟩ : ∃ row, rows[k]? = some row := ⟨_, List.getElem?_eq_getElem (by omega)⟩
    cases gone with
    | true => exact absurd (h.marks k _ hk rfl).1 (Nat.lt_irrefl _)
    | false => exact h.client hk hclient hs

/-- **A round of the scan**, which goes on to the next slot. -/
theorem round {fuel : Nat} {o : Nat × Bool} (h : Scan w₀ w t.self rows i marked)
    (hexec : Exec (scanSlot fuel (i, marked)) t tr (.inl o) t') (hs : w.Sees (sightings tr) w') :
    ∃ rows', Scan w₀ w' t'.self rows' o.1 o.2 ∧ RowSteps w t.self rows tr w' t'.self rows' := by
  obtain ⟨on, rest, rfl, ⟨-, hne, -⟩ | ⟨hlt, now, ho, hserve⟩⟩ := exec_scanSlot hexec
  · cases hne
  · cases ho
    obtain ⟨rows', h', hsteps⟩ := h.serve hlt hserve hs
    exact ⟨rows', h', (h.flag on).trans hsteps⟩

end Scan

/-- **The middle of a pass**: the rows match the arrays, and steps led there. -/
theorem Table.scanning {w w' : Watch} {fuel : Nat} {timeout : Int} {i : Nat × Bool}
    (h : Table w t.self (rowsOf w.live)) (hexec : Scanning fuel timeout t tr i t')
    (hs : w.Sees (sightings tr) w') : ∃ rows, Scan w w' t'.self rows i.1 i.2 ∧
      RowSteps w t.self (rowsOf w.live) tr w' t'.self rows := by
  obtain ⟨-, hrounds⟩ := hexec
  rename_i reply rest
  have hkept := tableKept_setRevents t.self (reventsAt reply)
  have hstart := h.of_tableKept hkept
  have hpolled : RowSteps w t.self (rowsOf w.live)
      [⟨.sys (.poll t.self.polled timeout), .ok reply⟩] w (t.self.setRevents (reventsAt reply))
      (rowsOf w.live) := .single h (.idle hkept rfl (fun _ ↦ ⟨rfl, rfl⟩) nofun) hstart
  have hall : ∀ w₁, w.Sees (sightings rest) w₁ → ∃ rows, Scan w w₁ t'.self rows i.1 i.2 ∧
      RowSteps w t.self (rowsOf w.live)
        (⟨.sys (.poll t.self.polled timeout), .ok reply⟩ :: rest) w₁ t'.self rows := by
    clear hs
    induction hrounds with
    | refl =>
      intro w₁ hs₁
      obtain rfl := Watch.sees_nil.mp hs₁
      exact ⟨_, hstart.scan 0, hpolled⟩
    | tail _ hround ih =>
      intro w₂ hs₂
      rw [sightings_append] at hs₂
      obtain ⟨w₁, hs₁, hs₂⟩ := Watch.sees_append.mp hs₂
      obtain ⟨rows, hscan, hsteps⟩ := ih w₁ hs₁
      obtain ⟨rows', hscan', hsteps'⟩ := hscan.round hround hs₂
      exact ⟨rows', hscan', hsteps.trans hsteps'⟩
  exact hall w' hs

/-- **The end of a pass**: steps led from the table before it to rows over which it compacted. -/
theorem Table.scanned {w w' : Watch} {fuel : Nat} {timeout : Int} {result : UdtcpPoll}
    (h : Table w t.self (rowsOf w.live))
    (hexec : Exec (udtcpServerPoll fuel timeout) t tr result t')
    (hs : w.Sees (sightings tr) w') : ∃ s rows i marked, Scan w w' s rows i marked ∧
      RowSteps w t.self (rowsOf w.live) tr w' s rows ∧
      (t'.self = s.compact ∨ t'.self = s ∧ unmarked rows = rows) := by
  have hpolled (reply) : sightings [⟨.sys (.poll t.self.polled timeout), reply⟩] = [] := by
    cases reply <;> rfl
  rcases exec_udtcpServerPoll hexec with ⟨reply, rfl, hself⟩ | ⟨tr₁, i, t₁, on, rfl, hscan, hself⟩
  · rw [hpolled] at hs
    obtain rfl := Watch.sees_nil.mp hs
    have hkept : TableKept t.self t'.self := by
      rcases hself with hself | ⟨revents, hself⟩
      · rw [hself]
        exact .refl _
      · rw [hself]
        exact tableKept_setRevents _ _
    have ht := h.of_tableKept hkept
    refine ⟨t'.self, _, 0, false, ht.scan 0, .single h (.idle hkept rfl (fun ρ ↦ ?_) nofun) ht,
      .inr ⟨rfl, by rw [unmarked_eq_rowsOf, liveOf_rowsOf]⟩⟩
    rw [hpolled]
    exact ⟨rfl, rfl⟩
  · rw [sightings_append] at hs
    obtain ⟨w₁, hs₁, hs₂⟩ := Watch.sees_append.mp hs
    obtain rfl := Watch.sees_nil.mp hs₂
    obtain ⟨rows, hmid, hsteps⟩ := h.scanning hscan hs₁
    refine ⟨t₁.self, rows, i.1, i.2, hmid, hsteps.trans (hmid.flag on), ?_⟩
    cases hi : i.2 with
    | true =>
      rw [hi] at hself
      exact .inl hself
    | false =>
      rw [hi] at hself
      refine .inr ⟨hself, hmid.table.unmarked_eq_self (Nat.le_refl _) fun k row hk _ ↦ ?_⟩
      cases hgone : row.gone with
      | false => rfl
      | true =>
        have hmarked := (hmid.marks k row hk hgone).2
        rw [hi] at hmarked
        cases hmarked

/-- **A pass** leads from a table without marks to a table without marks, over rows that are the
old ones and one for each handshake completed on the way. -/
theorem Table.pass {w w' : Watch} {fuel : Nat} {timeout : Int} {result : UdtcpPoll}
    (h : Table w t.self (rowsOf w.live))
    (hexec : Exec (udtcpServerPoll fuel timeout) t tr result t')
    (ha : tableKernel.Accepts w tr w') :
    Table w' t'.self (rowsOf w'.live) ∧ ∃ rows, w'.live = liveOf rows ∧
      w.completed ≤ w'.completed ∧
      numbersOf rows = w.live.map (·.number) ++
        List.range' (w.completed + 1) (w'.completed - w.completed) ∧
      (numbersOf rows).Pairwise (· < ·) ∧ (Placed (rowsOf w.live) → Placed rows) := by
  obtain ⟨s, rows, i, marked, hscan, -, hself⟩ := h.scanned hexec (accepts_tableKernel.mp ha)
  refine ⟨?_, rows, hscan.table.live, hscan.completed, hscan.numbers, hscan.table.ordered,
    hscan.placed⟩
  have hrows : rowsOf w'.live = unmarked rows := by
    rw [hscan.table.live, unmarked_eq_rowsOf]
  rw [hrows]
  rcases hself with hself | ⟨hself, hunmarked⟩
  · rw [hself]
    exact (hscan.table.compact (fun _ _ ↦ True) (fun _ _ _ _ _ _ _ _ ↦ trivial) trivial).1
  · rw [hself, hunmarked]
    exact hscan.table

/-- **The rule for runs.** What every step and every deletion of a marked row preserve, a pass
preserves. -/
theorem Table.pass_invariant {X : Trace posix → Watch → UdtcpServer m → List Row → Prop}
    (step : ∀ {done tr : Trace posix} {w w' : Watch} {s s' : UdtcpServer m} {rows rows' : List Row},
      Table w s rows → X done w s rows → RowStep w s rows tr w' s' rows' → Table w' s' rows' →
      X (done ++ tr) w' s' rows')
    (remove : ∀ {done : Trace posix} {w : Watch} {s : UdtcpServer m} {rows : List Row} {k : Nat}
      {row : Row}, Table w s rows → X done w s rows → rows[k]? = some row → row.gone = true →
      X done w (s.removeSlot (2 + k)) (rows.eraseIdx k))
    {w w' : Watch} {fuel : Nat} {timeout : Int} {result : UdtcpPoll} {done : Trace posix}
    (h : Table w t.self (rowsOf w.live)) (hx : X done w t.self (rowsOf w.live))
    (hexec : Exec (udtcpServerPoll fuel timeout) t tr result t')
    (ha : tableKernel.Accepts w tr w') : X (done ++ tr) w' t'.self (rowsOf w'.live) := by
  obtain ⟨s, rows, i, marked, hscan, hsteps, hself⟩ := h.scanned hexec (accepts_tableKernel.mp ha)
  have hend := hsteps.invariant step hx
  have hrows : rowsOf w'.live = unmarked rows := by
    rw [hscan.table.live, unmarked_eq_rowsOf]
  rw [hrows]
  rcases hself with hself | ⟨hself, hunmarked⟩
  · rw [hself]
    exact (hscan.table.compact (X (done ++ tr) w')
      (fun _ _ _ _ ht hx hk hgone ↦ remove ht hx hk hgone) hend).2
  · rw [hself, hunmarked]
    exact hend

end

end Udtcp
