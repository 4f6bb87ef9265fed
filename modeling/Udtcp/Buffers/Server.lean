import Udtcp.Buffers.Release
import Udtcp.Receive.Roles
import Udtcp.Server.Created
import Udtcp.Server.Serving
import Udtcp.Table.Seats

/-!
# The buffers of a server

What `udtcp_create_server` establishes, every pass keeps and `udtcp_delete_server` uses up: the
blocks belong to the receive buffer and to the send structures from the third on, and each client's
record points to one of these, possibly to one that another client's points to as well.
-/

namespace Udtcp

open Interaction Routine

section

variable {m : Nat}

/-- A server and the heap: blocks have their owners, the send structures were all stored, only those
from the third on have blocks, and the records of clients point to these. -/
structure ServerHeap (s : UdtcpServer m) (h : Heap) : Prop where
  kept : h.Kept s.buffer
  stored : ∀ i < pollTableSize m, ∃ v, h.cells (s.sendAddr i) = some v
  owned : ∀ addr v, h.cells addr = some v → v.buffer.isSome →
    ∃ i, 2 ≤ i ∧ i < pollTableSize m ∧ addr = s.sendAddr i
  pollNfds : 2 ≤ s.pollNfds
  seated : ∀ k, 2 ≤ k → k < s.pollNfds →
    ∃ i, 2 ≤ i ∧ i < pollTableSize m ∧ (s.infos k).send = s.sendAddr i

namespace ServerHeap

variable {s s' : UdtcpServer m} {h h' : Heap}

/-- Changes of the server that the heap does not notice. -/
theorem of_server (hI : ServerHeap s h) (hbuffer : s'.buffer = s.buffer) (haddr : s'.addr = s.addr)
    (hnfds : s'.pollNfds = s.pollNfds)
    (hsend : ∀ k, 2 ≤ k → k < s.pollNfds → (s'.infos k).send = (s.infos k).send) :
    ServerHeap s' h := by
  have hat (i : Nat) : s'.sendAddr i = s.sendAddr i := by
    rw [UdtcpServer.sendAddr, haddr]
    rfl
  refine ⟨hbuffer ▸ hI.kept, fun i hi ↦ hat i ▸ hI.stored i hi, fun addr v hv hblock ↦ ?_,
    hnfds ▸ hI.pollNfds, fun k hk hlt ↦ ?_⟩
  · obtain ⟨i, hlow, hhigh, hi⟩ := hI.owned addr v hv hblock
    exact ⟨i, hlow, hhigh, hi.trans (hat i).symm⟩
  · rw [hnfds] at hlt
    obtain ⟨i, hlow, hhigh, hi⟩ := hI.seated k hk hlt
    exact ⟨i, hlow, hhigh, (hsend k hk hlt).trans (hi.trans (hat i).symm)⟩

/-- Changes of a record behind the last client. -/
theorem modifyInfos (hI : ServerHeap s h) {i : Nat} (hi : s.pollNfds ≤ i)
    (f : UdtcpInfos → UdtcpInfos) : ServerHeap (s.modifyInfos i f) h :=
  hI.of_server rfl rfl rfl fun k _ hlt ↦
    congrArg UdtcpInfos.send (s.infos_modifyInfos_of_ne f (by omega))

/-- A store that leaves a structure its block. -/
theorem rewrite (hI : ServerHeap s h) {addr : UInt64} {v w : UdtcpSend}
    (hv : h.cells addr = some v) (hptr : w.buffer.map Block.ptr = v.buffer.map Block.ptr)
    (hsize : w.bufferSize = v.bufferSize) :
    ServerHeap s (h.after (.storeSend addr w) ()) := by
  obtain ⟨hkept, hcells⟩ := hI.kept.rewrite hv hptr hsize
  refine ⟨hkept, fun i hi ↦ ?_, fun a x hx hblock ↦ ?_, hI.pollNfds, hI.seated⟩
  · rw [hcells]
    by_cases ha : s.sendAddr i = addr
    · exact ⟨w, by rw [ha, Function.update_self]⟩
    · rw [Function.update_of_ne ha]
      exact hI.stored i hi
  · rw [hcells] at hx
    by_cases ha : a = addr
    · rw [ha, Function.update_self] at hx
      obtain rfl := Option.some.inj hx
      refine ha ▸ hI.owned addr v hv ?_
      rwa [← Option.isSome_map (f := Block.ptr), ← hptr, Option.isSome_map]
    · rw [Function.update_of_ne ha] at hx
      exact hI.owned a x hx hblock

/-- A new client at the end of the table points to the send structure of its slot. -/
theorem enter (hI : ServerHeap s h) (hfree : s.pollNfds < pollTableSize m) {r : UdtcpInfos}
    (hr : r.send = s.sendAddr s.pollNfds) : ServerHeap (s.enter s.pollNfds r) h := by
  refine ⟨hI.kept, hI.stored, hI.owned, Nat.le_succ_of_le hI.pollNfds, fun k hk hlt ↦ ?_⟩
  change ∃ i, 2 ≤ i ∧ i < pollTableSize m ∧
    (Function.update s.infos s.pollNfds r k).send = s.sendAddr i
  by_cases hlast : k = s.pollNfds
  · rw [hlast, Function.update_self]
    exact ⟨_, hI.pollNfds, hfree, hr⟩
  · rw [Function.update_of_ne hlast]
    have hlt : k < s.pollNfds + 1 := hlt
    exact hI.seated k hk (by omega)

/-- Deleting an entry moves records, with what they point to. -/
theorem removeSlot (hI : ServerHeap s h) {i : Nat} (hi : 2 ≤ i) (hlt : i < s.pollNfds) :
    ServerHeap (s.removeSlot i) h := by
  obtain ⟨hnfds, -, hslots⟩ := s.removeSlot_spec hlt
  have hbuffer : (s.removeSlot i).buffer = s.buffer := by
    unfold UdtcpServer.removeSlot
    split <;> rfl
  have hat (j : Nat) : (s.removeSlot i).sendAddr j = s.sendAddr j := by
    rw [UdtcpServer.sendAddr, s.removeSlot_addr]
    rfl
  refine ⟨hbuffer ▸ hI.kept, fun j hj ↦ hat j ▸ hI.stored j hj, fun addr v hv hblock ↦ ?_, by omega,
    fun k hk hkn ↦ ?_⟩
  · obtain ⟨j, hlow, hhigh, hj⟩ := hI.owned addr v hv hblock
    exact ⟨j, hlow, hhigh, hj.trans (hat j).symm⟩
  · rw [(hslots k (by omega)).2]
    obtain ⟨j, hlow, hhigh, hj⟩ := hI.seated (if k < i then k else k + 1) (by split <;> omega)
      (by split <;> omega)
    exact ⟨j, hlow, hhigh, hj.trans (hat j).symm⟩

/-- Compaction. -/
theorem compact (hI : ServerHeap s h) : ServerHeap s.compact h := by
  have hfrom (rounds i : Nat) (s : UdtcpServer m) (hI : ServerHeap s h) (hi : 2 ≤ i) :
      ServerHeap (s.compactFrom rounds i) h := by
    induction rounds generalizing i s with
    | zero => exact hI
    | succ rounds ih =>
      unfold UdtcpServer.compactFrom
      split
      · next hlt =>
        split
        · exact ih i _ (hI.removeSlot hi hlt) hi
        · exact ih (i + 1) s hI (Nat.le_succ_of_le hi)
      · exact hI
  exact hfrom _ 2 s hI (Nat.le_refl 2)

end ServerHeap

/-! ### Accepting -/

/-- The invariant while a client is taken into slot `n`, behind the last one. -/
def Admitting (n : Nat) (s : UdtcpServer m) (h : Heap) : Prop := ServerHeap s h ∧ s.pollNfds = n

variable {n : Nat}

private theorem maintains_modifyInfos {i : Nat} (hi : n ≤ i) (f : UdtcpInfos → UdtcpInfos) :
    Maintains heapKernel (OnHeap (Admitting (m := m) n)) (update (·.modifyInfos i f)) :=
  maintains_update fun _ _ ⟨hI, hn⟩ ↦ ⟨hI.modifyInfos (hn.trans_le hi) f, hn⟩

private theorem maintains_writeRecord (bs : List UInt8) :
    Maintains heapKernel (OnHeap (Admitting (m := m) n)) (writeRecord n bs) := by
  unfold writeRecord
  refine (maintains_modifyInfos (Nat.le_refl n) _).bind fun _ ↦ ?_
  cases bs[UdtcpInfos.sizeof]? with
  | none => exact maintains_pure _
  | some b =>
    refine .ite (maintains_modifyInfos (Nat.le_succ n) _) ?_
    rintro t h ⟨hI, hn⟩
    obtain ⟨v, hv⟩ := hI.stored 0 (Nat.lt_of_lt_of_le Nat.zero_lt_two (Nat.le_add_right 2 m))
    refine must_self_bind (must_loadSend hI.kept hv fun mutex ↦ must_issue fun _ h₁ hstore ↦ ?_)
    obtain ⟨-, rfl⟩ := hstore
    exact ⟨hI.rewrite hv rfl rfl, hn⟩

private theorem maintains_initializeConnection :
    Maintains heapKernel (OnHeap (Admitting (m := m) n)) (initializeConnection n) := by
  unfold initializeConnection
  refine maintains_self.bind fun s ↦ (maintains_inert_syscall rfl).bind fun sent ↦ ?_
  refine .ite (maintains_pure _) ((maintains_pollIn _).bind fun ready ↦ .ite (maintains_pure _) ?_)
  refine maintains_self.bind fun s ↦ (maintains_inert_syscall rfl).bind fun got ↦ ?_
  cases got with
  | error e => exact maintains_pure _
  | ok bs =>
    refine (maintains_writeRecord _).bind fun _ ↦ .ite (maintains_pure _) ?_
    refine maintains_self.bind fun s ↦ (maintains_modifyInfos (Nat.le_refl n) _).bind fun _ ↦ ?_
    exact maintains_pure _

private theorem must_registerClient {t : Thread (UdtcpServer m)} {h : Heap}
    (hI : Admitting n t.self h) (hfree : n < pollTableSize m) :
    Must heapKernel (registerClient n) t h fun _ ↦ OnHeap ServerHeap := by
  obtain ⟨hI, rfl⟩ := hI
  intro tr u t' h' hrun ha
  obtain ⟨key, name, rest, r, rfl, hself, hcall, hlink⟩ := exec_registerClient hrun
  obtain ⟨h₁, hname, hrest⟩ := ha
  have hshort : ∀ text, name = some text → NameFits text := by
    rintro text rfl
    exact hname.1
  have hsame : h' = h := by
    rw [← heapKernel_of_inert (c := .gethostbyaddr key) rfl hname]
    rcases hcall with ⟨-, v, rfl⟩ | ⟨-, rfl⟩
    · obtain ⟨h₂, hconnect, rfl⟩ := hrest
      exact heapKernel_of_inert rfl hconnect
    · exact hrest
  rw [hsame, OnHeap, hself]
  exact hI.enter hfree (hlink hshort).send

private theorem must_admitClient {t : Thread (UdtcpServer m)} {h : Heap}
    (hI : Admitting n t.self h) (hfree : n < pollTableSize m) :
    Must heapKernel (admitClient n) t h fun _ ↦ OnHeap ServerHeap := by
  have hclose (fd : Fd) {t : Thread (UdtcpServer m)} {h : Heap} (hI : Admitting n t.self h) :
      Must heapKernel (do
        let _ ← syscall (.close fd)
        return (-1 : Int)) t h fun _ ↦ OnHeap ServerHeap :=
    must_inert_syscall rfl fun r ↦ must_pure (by
      rw [OnHeap, Thread.note_self]
      exact hI.1)
  unfold admitClient
  refine must_self_bind (must_bind ((maintains_addOption (P := Admitting n) _ _ _ hI).mono
    fun o t₁ h₁ hI₁ ↦ ?_))
  refine must_ite (fun _ ↦ must_self_bind (hclose _ hI₁)) fun _ ↦ ?_
  refine must_bind ((maintains_initializeConnection _ _ hI₁).mono fun k t₂ h₂ hI₂ ↦ ?_)
  refine must_ite (fun _ ↦ must_self_bind (hclose _ hI₂)) fun _ ↦ ?_
  exact must_bind ((must_registerClient hI₂ hfree).mono fun _ _ _ hI₃ ↦ must_pure hI₃)

private theorem maintains_acceptClient :
    Maintains heapKernel (OnHeap ServerHeap) (acceptClient : ServerProc m Int) := by
  intro t h hI
  unfold acceptClient
  refine must_self_bind (must_ite (fun _ ↦ ?_) fun hfree ↦ ?_)
  · have hrefuse : Maintains heapKernel (OnHeap ServerHeap) (refuseClient : ServerProc m Int) := by
      unfold refuseClient
      refine maintains_self.bind fun s ↦ (maintains_inert_syscall rfl).bind fun r ↦ ?_
      cases r with
      | error e => exact maintains_pure _
      | ok a =>
        exact (maintains_inert_syscall rfl).bind fun _ ↦
          (maintains_inert_syscall rfl).bind fun _ ↦ maintains_pure _
    exact hrefuse t h hI
  · refine must_inert_syscall rfl fun r ↦ ?_
    have hI : ServerHeap (t.note r).self h := by
      rw [Thread.note_self]
      exact hI
    have hn : (t.note r).self.pollNfds = t.self.pollNfds := by rw [Thread.note_self]
    cases r with
    | error e => exact must_update_bind (must_pure
        (hI.modifyInfos hn.le ({ · with tcpSocket := -1 })))
    | ok a =>
      have hfilled := hI.modifyInfos hn.le ({ · with tcpAddr := a.2, tcpSocket := a.1.val })
      exact must_update_bind (must_admitClient ⟨hfilled, hn⟩ (Nat.not_le.mp hfree))

/-! ### Passes -/

private theorem maintains_onBuffer_server {f : UdtcpServer m → Proc ReceiveBuffer Int}
    (hf : ∀ s cells, Maintains heapKernel (OnHeap (Receiving cells)) (f s)) :
    Maintains heapKernel (OnHeap ServerHeap) (self >>= fun s ↦ onBuffer (f s)) := by
  intro t h hI
  refine must_self_bind (must_onPart ?_)
  refine (hf t.self h.cells ⟨t.errno, t.self.buffer⟩ h ⟨ServerHeap.kept hI, rfl⟩).mono ?_
  rintro n u h' ⟨hkept, hcells⟩
  have hI : ServerHeap t.self h := hI
  exact ⟨hkept, hcells ▸ hI.stored, hcells ▸ hI.owned, hI.pollNfds, hI.seated⟩

private theorem serverPassRules :
    Server.PassRules heapKernel (OnHeap (ServerHeap (m := m))) where
  poll fds timeout t h r h' hI hk := by
    rw [heapKernel_of_inert rfl hk, OnHeap, Thread.note_self]
    exact hI
  revents t h revents hI := ServerHeap.of_server hI rfl rfl rfl fun _ _ _ ↦ rfl
  flag t h r h' hI hk := by
    rw [heapKernel_of_inert rfl hk]
    exact hI
  acceptClient := maintains_acceptClient
  receiveTcp slot := by
    refine maintains_onBuffer_server fun s cells ↦ maintains_receiveTcpWith
      (fun f hf data ↦ ?_) cInt
    split at hf
    · cases hf
      rfl
    · cases hf
  receiveUdp := by
    refine maintains_onBuffer_server fun s cells ↦ maintains_receiveUdpWith
      (fun addr f hf data ↦ ?_) cInt
    obtain ⟨slot, -, hroute⟩ := Option.map_eq_some_iff.mp hf
    split at hroute
    · cases hroute
      rfl
    · cases hroute
  dropClient slot := by
    unfold dropClient disconnect
    refine Maintains.bind ?_ fun _ ↦ maintains_update fun t h hI ↦
      ServerHeap.of_server hI rfl rfl rfl fun _ _ _ ↦ rfl
    refine maintains_self.bind fun s ↦ (maintains_inert_syscall rfl).bind fun _ ↦ ?_
    refine maintains_self.bind fun s ↦ (maintains_inert_syscall rfl).bind fun _ ↦ ?_
    exact maintains_self.bind fun s ↦ .ite (maintains_inert_issue rfl) (maintains_pure _)
  compact t h hI := ServerHeap.compact hI

/-- A pass keeps the owners. -/
theorem ServerHeap.udtcpServerPoll (fuel : Nat) (timeout : Int) : Maintains heapKernel
    (OnHeap ServerHeap) (udtcpServerPoll fuel timeout : ServerProc m UdtcpPoll) :=
  serverPassRules.maintains_udtcpServerPoll fuel timeout

/-! ### Creation -/

/-- A server under construction at `addr`: its blocks are those of the heap `h₀`, its table has the
two sockets, its receive buffer is empty. -/
structure Raised (addr : UInt64) (h₀ : Heap) (s : UdtcpServer m) (h : Heap) : Prop where
  heap : h = h₀
  addr : s.addr = addr
  pollNfds : s.pollNfds = 2
  buffer : s.buffer = .empty

/-- The send structures of a list of indices are cleared, nothing else was stored, and there are no
blocks. -/
structure Cleared (s : UdtcpServer m) (is : List Nat) (h : Heap) : Prop where
  ledger : h.ledger = .empty
  zero : ∀ addr v, h.cells addr = some v → v = .zero
  stored : ∀ i ∈ is, h.cells (s.sendAddr i) = some .zero

/-- A new server begins without blocks. -/
theorem Raised.serverHeap {s s' : UdtcpServer m} {h h' : Heap} (hr : Raised s.addr h s' h')
    (hc : Cleared s (List.range (pollTableSize m)) h) : ServerHeap s' h' := by
  obtain ⟨rfl, haddr, hnfds, hbuffer⟩ := hr
  have hat (i : Nat) : s'.sendAddr i = s.sendAddr i := by
    rw [UdtcpServer.sendAddr, haddr]
    rfl
  refine ⟨?_, fun i hi ↦ ⟨_, hat i ▸ hc.stored i (List.mem_range.mpr hi)⟩,
    fun addr v hv hblock ↦ ?_,
    hnfds.ge, fun k hk hlt ↦ by omega⟩
  · rw [hbuffer]
    exact Heap.kept_of_zero hc.ledger hc.zero
  · rw [hc.zero addr v hv] at hblock
    cases hblock

namespace Server

variable {t : Thread (UdtcpServer m)} {h h₀ : Heap} {addr : UInt64}

private theorem must_clearSends_heap {s : UdtcpServer m} {is pre : List Nat}
    (hc : Cleared s pre h) :
    Must heapKernel (clearSends s is) t h fun _ t' h' ↦ t' = t ∧ Cleared s (pre ++ is) h' := by
  induction is generalizing h pre with
  | nil =>
    rw [List.append_nil]
    exact must_pure ⟨rfl, hc⟩
  | cons i is ih =>
    unfold clearSends
    refine must_issue_bind fun _ h₁ hstore ↦ ?_
    obtain ⟨-, rfl⟩ := hstore
    rw [List.append_cons]
    refine ih ⟨?_, fun addr v hv ↦ ?_, fun j hj ↦ ?_⟩
    · change h.ledger.enter (.touched none) = _
      rw [hc.ledger]
      rfl
    · have hv : Function.update h.cells (s.sendAddr i) (some .zero) addr = some v := hv
      by_cases ha : addr = s.sendAddr i
      · rw [ha, Function.update_self] at hv
        exact (Option.some.inj hv).symm
      · rw [Function.update_of_ne ha] at hv
        exact hc.zero addr v hv
    · change Function.update h.cells (s.sendAddr i) (some .zero) (s.sendAddr j) = _
      by_cases ha : s.sendAddr j = s.sendAddr i
      · rw [ha, Function.update_self]
      · rw [Function.update_of_ne ha]
        rcases List.mem_append.mp hj with hj | hj
        · exact hc.stored j hj
        · exact absurd (congrArg s.sendAddr (List.mem_singleton.mp hj)) ha

private theorem maintains_initMutexes {P : UdtcpServer m → Heap → Prop} (s : UdtcpServer m)
    (is : List Nat) : Maintains heapKernel (OnHeap P) (initMutexes s is) := by
  induction is with
  | nil => exact maintains_pure _
  | cons i is ih => exact (maintains_inert_request rfl).bind fun ok ↦ .ite ih (maintains_pure _)

private theorem maintains_modifyServerInfos (f : UdtcpInfos → UdtcpInfos) :
    Maintains heapKernel (OnHeap (Raised (m := m) addr h₀)) (update (·.modifyServerInfos f)) :=
  maintains_update fun _ _ hr ↦ ⟨hr.heap, hr.addr, hr.pollNfds, hr.buffer⟩

private theorem raises_finishServer :
    Maintains heapKernel (OnHeap (Raised addr h₀)) (finishServer : ServerProc m Int) := by
  have htexts (text : UdtcpInfos → SockaddrIn) :
      Maintains heapKernel (OnHeap (Raised (m := m) addr h₀))
      (onInfos 0 (udtcpSetStringInfos text)) := by
    intro t h hr tr u t' h' hrun ha
    obtain ⟨u, hu, rfl⟩ := exec_onPart.mp hrun
    obtain ⟨name, rfl, -⟩ := exec_udtcpSetStringInfos hu
    obtain ⟨h₁, hk, rfl⟩ := ha
    rw [heapKernel_of_inert rfl hk]
    exact ⟨hr.heap, hr.addr, hr.pollNfds, hr.buffer⟩
  unfold finishServer
  refine (maintains_modifyServerInfos _).bind fun _ ↦
    (htexts _).bind fun _ ↦ (maintains_update fun _ _ hr ↦ ?_).bind fun _ ↦ maintains_pure _
  exact ⟨hr.heap, hr.addr, hr.pollNfds, hr.buffer⟩

private theorem raises_abandon :
    MaintainsFor heapKernel (OnHeap (Raised (m := m) addr h₀)) (· = 0) abandon :=
  maintainsFor_of_not fun _ _ _ _ hrun hzero ↦ by cases (exec_abandon hrun).symm.trans hzero

private theorem raises_listenServer :
    MaintainsFor heapKernel (OnHeap (Raised addr h₀)) (· = 0)
      (listenServer : ServerProc m Int) := by
  refine .bind (maintains_modifyServerInfos _) fun _ ↦ .bind maintains_self fun s ↦
    .bind (maintains_inert_syscall rfl) fun r ↦ ?_
  cases r with
  | error e => exact raises_abandon
  | ok u =>
    refine .bind maintains_self fun s ↦ .bind (maintains_addOption _) fun o ↦ .ite raises_abandon ?_
    refine .bind maintains_self fun s ↦ .bind (maintains_addOption _) fun o ↦ .ite raises_abandon ?_
    exact raises_finishServer.maintainsFor

private theorem raises_bindSockets (host : Hostent) (p q r : UInt16) :
    MaintainsFor heapKernel (OnHeap (Raised addr h₀)) (· = 0)
      (bindSockets host p q r : ServerProc m Int) := by
  refine .bind (maintains_modifyServerInfos _) fun _ ↦ .bind maintains_self fun s ↦
    .bind maintains_self fun s' ↦ .bindOption (maintains_bindSocket _ _) raises_abandon fun _ ↦ ?_
  refine .bind (maintains_modifyServerInfos _) fun _ ↦ .bind maintains_self fun s ↦
    .bind maintains_self fun s' ↦ .bindOption (maintains_bindSocket _ _) raises_abandon fun _ ↦ ?_
  refine .bind (maintains_modifyServerInfos _) fun _ ↦ .bind maintains_self fun s ↦
    .bind maintains_self fun s' ↦ .bindOption (maintains_bindSocket _ _) raises_abandon fun _ ↦ ?_
  exact .bind (maintains_modifyServerInfos _) fun _ ↦ raises_listenServer

private theorem must_openSockets_heap {host : Hostent} {p q r : UInt16} (hh : h = h₀)
    (haddr : t.self.addr = addr) (hbuffer : t.self.buffer = .empty) :
    Must heapKernel (openSockets host p q r) t h fun n t' h' ↦
      n = 0 → Raised addr h₀ t'.self h' := by
  have hrelease (opened : List Fd) (t : Thread (UdtcpServer m)) : Must heapKernel
      (releaseServer opened) t h fun n t' h' ↦ n = 0 → Raised addr h₀ t'.self h' :=
    fun _ _ _ _ hrun _ hzero ↦ by cases (exec_releaseServer hrun).symm.trans hzero
  unfold openSockets
  refine must_inert_syscall rfl fun tcp ↦ ?_
  cases tcp with
  | error e => exact hrelease _ _
  | ok tcp =>
    refine must_update_bind (must_update_bind (must_update_bind
      (must_inert_syscall rfl fun udp ↦ ?_)))
    cases udp with
    | error e => exact hrelease _ _
    | ok udp =>
      refine must_update_bind (must_update_bind (must_update_bind (must_inert_syscall rfl ?_)))
      intro other
      cases other with
      | error e => exact hrelease _ _
      | ok other =>
        exact must_update_bind (raises_bindSockets host p q r _ _ ⟨hh, haddr, rfl, hbuffer⟩)

end Server

/-- A server that was created owns its blocks. -/
theorem must_udtcpCreateServer_heap {hostname : List UInt8} {p q r : UInt16}
    {t : Thread (UdtcpServer m)} :
    Must heapKernel (udtcpCreateServer hostname p q r) t .start fun n t' h' ↦
      n = 0 → ServerHeap t'.self h' := by
  unfold udtcpCreateServer
  refine must_inert_request rfl fun host ↦ ?_
  cases host with
  | none => exact must_setErrno_bind (must_pure fun hzero ↦ by cases hzero)
  | some host =>
    refine must_inert_syscall rfl fun addr ↦ ?_
    cases addr with
    | error e => exact must_pure fun hzero ↦ by cases hzero
    | ok addr =>
      refine must_update_bind (must_self_bind (must_bind ?_))
      have hstart : Cleared (UdtcpServer.zero (m := m) addr) [] .start :=
        ⟨rfl, fun _ _ hv ↦ (by cases hv), fun _ hi ↦ absurd hi List.not_mem_nil⟩
      refine (Server.must_clearSends_heap hstart).mono ?_
      rintro _ t₁ h₁ ⟨rfl, hcleared⟩
      refine must_bind ((Server.maintains_initMutexes (P := fun s h ↦ s = .zero addr ∧ h = h₁)
        _ _ _ _ ⟨rfl, rfl⟩).mono ?_)
      rintro o t₂ h₂ ⟨hs, rfl⟩
      cases o with
      | some i =>
        exact must_bind fun _ _ _ _ _ _ ↦ must_issue_bind fun _ _ _ ↦ must_pure fun hzero ↦ by
          cases hzero
      | none =>
        have hopen : Must heapKernel (Server.openSockets host p q r) t₂ h₂ fun n t' h' ↦
            n = 0 → Raised addr h₂ t'.self h' :=
          Server.must_openSockets_heap rfl (congrArg UdtcpServer.addr hs)
            (congrArg UdtcpServer.buffer hs)
        exact hopen.mono fun n t' h' hr hzero ↦ (hr hzero).serverHeap hcleared

/-! ### Deletion -/

namespace Server

variable {t : Thread (UdtcpServer m)} {h : Heap} {b : ReceiveBuffer}

private theorem must_releaseSends_heap {s : UdtcpServer m} {is : List Nat}
    (hr : Releasing b (is.map s.sendAddr) h) (hnodup : (is.map s.sendAddr).Nodup)
    (hstored : ∀ i ∈ is, ∃ v, h.cells (s.sendAddr i) = some v) :
    Must heapKernel (releaseSends s is) t h fun _ _ h' ↦ Releasing b [] h' := by
  induction is generalizing h with
  | nil => exact must_pure hr
  | cons i is ih =>
    obtain ⟨hfresh, hnodup⟩ := List.nodup_cons.mp hnodup
    obtain ⟨v, hv⟩ := hstored i List.mem_cons_self
    unfold releaseSends
    refine must_freeSent hr hfresh hv fun h' hcells hr' ↦ must_inert_issue rfl ?_
    exact ih hr' hnodup fun j hj ↦ hcells ▸ hstored j (List.mem_cons_of_mem _ hj)

private theorem inert_releaseClients (s : UdtcpServer m) (is : List Nat) :
    Emits (fun e : Event posix ↦ e.call.inert = true) (releaseClients s is) := by
  induction is with
  | nil => exact emits_pure _
  | cons i is ih =>
    refine Emits.bind (.ite ?_ (emits_pure _)) fun _ ↦ .bind (.ite ?_ (emits_pure _)) fun _ ↦ ?_
    · exact (emits_syscall fun _ ↦ rfl).bind fun _ ↦ emits_pure _
    · exact (emits_syscall fun _ ↦ rfl).bind fun _ ↦ emits_pure _
    · exact .ite ((emits_issue fun _ ↦ rfl).bind fun _ ↦ ih) ih

end Server

/-- A server that is deleted leaves a balanced ledger, if its send structures fit into the address
space. -/
theorem must_udtcpDeleteServer_heap {t : Thread (UdtcpServer m)} {h : Heap}
    (hm : 72 * pollTableSize m ≤ 2 ^ 64) (hI : ServerHeap t.self h) :
    Must heapKernel udtcpDeleteServer t h fun _ _ h' ↦ h'.ledger.Balanced := by
  have hrange {i : Nat} : i ∈ List.range' 2 (pollTableSize m - 2) ↔ 2 ≤ i ∧
      i < pollTableSize m := by
    rw [List.mem_range'_1]
    have htable : pollTableSize m = 2 + m := rfl
    omega
  have hr : Releasing t.self.buffer
      ((List.range' 2 (pollTableSize m - 2)).map t.self.sendAddr) h := by
    refine hI.kept.releasing fun addr v hv hblock ↦ ?_
    obtain ⟨i, hlow, hhigh, rfl⟩ := hI.owned addr v hv hblock
    exact List.mem_map_of_mem (hrange.mpr ⟨hlow, hhigh⟩)
  have hnodup : ((List.range' 2 (pollTableSize m - 2)).map t.self.sendAddr).Nodup := by
    refine (List.nodup_range').map_on fun i hi j hj hsame ↦ ?_
    exact UdtcpServer.sendAddr_inj hm (hrange.mp hi).2 (hrange.mp hj).2 hsame
  unfold udtcpDeleteServer
  refine must_self_bind (must_closeInert fun t₁ _ ↦ must_closeInert fun t₂ _ ↦ ?_)
  refine must_closeInert fun t₃ _ ↦ must_bind ?_
  refine (Server.must_releaseSends_heap hr hnodup fun i hi ↦ hI.stored i (hrange.mp hi).2).mono ?_
  intro _ t₄ h₁ hr₁
  refine must_bind (must_inert (Server.inert_releaseClients _ _) fun _ _ t₅ _ ↦ ?_)
  refine must_freeReceived hr₁ fun h₂ _ hr₂ ↦ must_issue fun _ h₃ hfree ↦ ?_
  rw [heapKernel_of_inert rfl hfree]
  exact hr₂.balanced

end

end Udtcp
