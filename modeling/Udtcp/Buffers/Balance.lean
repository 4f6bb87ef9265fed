import Udtcp.Buffers.Client
import Udtcp.Buffers.Server
import Udtcp.Client.Polled

/-!
# The buffers of a whole life

From a successful creation to the end of deletion, with any receptions, sends, connections,
disconnections and compactions in between and whatever the allocator answers, every block is freed
exactly once and used at most before that.
-/

namespace Udtcp

open Interaction Routine

/-- A server at work, with what happened so far and the heap: passes, and messages of any size sent
to clients that are in the table. Between the calls the user may set the callbacks, and other code
of the thread may leave any value in `errno`. -/
inductive ServerWork (m : Nat) : Trace posix → Thread (UdtcpServer m) → Heap → Prop
  | create {hostname : List UInt8} {p q r : UInt16} {t t' : Thread (UdtcpServer m)}
      {tr : Trace posix} {h : Heap} (hrun : Exec (udtcpCreateServer hostname p q r) t tr 0 t')
      (ha : heapKernel.Accepts .start tr h) : ServerWork m tr t' h
  | pass {fuel : Nat} {timeout : Int} {result : UdtcpPoll} {t t' : Thread (UdtcpServer m)}
      {done tr : Trace posix} {h h' : Heap} (work : ServerWork m done t h)
      (hrun : Exec (udtcpServerPoll fuel timeout) t tr result t')
      (ha : heapKernel.Accepts h tr h') : ServerWork m (done ++ tr) t' h'
  | send {message : Request} {slot : Nat} {n : Int} {t t' : Thread (UdtcpServer m)}
      {done tr : Trace posix} {h h' : Heap} (work : ServerWork m done t h) (hslot : 2 ≤ slot)
      (hlive : slot < t.self.pollNfds) (hinfos : message.infos = t.self.infos slot)
      (hrun : Exec message.run t tr n t') (ha : heapKernel.Accepts h tr h') :
      ServerWork m (done ++ tr) t' h'
  | configure {t : Thread (UdtcpServer m)} {done : Trace posix} {h : Heap}
      (work : ServerWork m done t h) (connect disconnect tcp udp : Bool) (e : Errno) :
      ServerWork m done ⟨e, t.self.withCallbacks connect disconnect tcp udp⟩ h

/-- A client at work: connection attempts, passes, and messages of any size sent to the server after
a successful attempt that no other attempt followed, which is what `link` says. -/
inductive ClientWork : Bool → Trace posix → Thread UdtcpClient → Heap → Prop
  | create {hostname : List UInt8} {p q r : UInt16} {t t' : Thread UdtcpClient}
      {tr : Trace posix} {h : Heap} (hrun : Exec (udtcpCreateClient hostname p q r) t tr 0 t')
      (ha : heapKernel.Accepts .start tr h) : ClientWork false tr t' h
  | connect {link : Bool} {hostname : List UInt8} {tcpPort : UInt16} {timeout : Int}
      {result : UdtcpConnect} {t t' : Thread UdtcpClient} {done tr : Trace posix} {h h' : Heap}
      (work : ClientWork link done t h)
      (hrun : Exec (udtcpConnectClient hostname tcpPort timeout) t tr result t')
      (ha : heapKernel.Accepts h tr h') : ClientWork (result = .success) (done ++ tr) t' h'
  | pass {link : Bool} {fuel : Nat} {timeout : Int} {result : UdtcpPoll} {t t' : Thread UdtcpClient}
      {done tr : Trace posix} {h h' : Heap} (work : ClientWork link done t h)
      (hrun : Exec (udtcpClientPoll fuel timeout) t tr result t')
      (ha : heapKernel.Accepts h tr h') : ClientWork link (done ++ tr) t' h'
  | send {message : Request} {n : Int} {t t' : Thread UdtcpClient} {done tr : Trace posix}
      {h h' : Heap} (work : ClientWork true done t h)
      (hinfos : message.infos = t.self.serverInfos) (hrun : Exec message.run t tr n t')
      (ha : heapKernel.Accepts h tr h') : ClientWork true (done ++ tr) t' h'
  | configure {link : Bool} {t : Thread UdtcpClient} {done : Trace posix} {h : Heap}
      (work : ClientWork link done t h) (connect disconnect tcp udp : Bool) (e : Errno) :
      ClientWork link done ⟨e, t.self.withCallbacks connect disconnect tcp udp⟩ h

/-- A whole life of a server or of a client, to the end of its deletion, with all that happened and
the heap that is left. The send structures of a server fit into the address space. -/
inductive WholeLife : Trace posix → Heap → Prop
  | server {m : Nat} {t t' : Thread (UdtcpServer m)} {done tr : Trace posix} {h h' : Heap}
    {u : Unit}
      (hm : 72 * pollTableSize m ≤ 2 ^ 64) (work : ServerWork m done t h)
      (hrun : Exec udtcpDeleteServer t tr u t') (ha : heapKernel.Accepts h tr h') :
      WholeLife (done ++ tr) h'
  | client {link : Bool} {t t' : Thread UdtcpClient} {done tr : Trace posix} {h h' : Heap}
    {u : Unit}
      (work : ClientWork link done t h) (hrun : Exec udtcpDeleteClient t tr u t')
      (ha : heapKernel.Accepts h tr h') : WholeLife (done ++ tr) h'

section

variable {m : Nat} {link : Bool} {done tr : Trace posix} {h h' : Heap} {message : Request} {n : Int}

private theorem ServerHeap.send {t t' : Thread (UdtcpServer m)} {slot : Nat}
    (hI : ServerHeap t.self h) (hslot : 2 ≤ slot) (hlive : slot < t.self.pollNfds)
    (hinfos : message.infos = t.self.infos slot) (hrun : Exec message.run t tr n t')
    (ha : heapKernel.Accepts h tr h') : ServerHeap t'.self h' := by
  obtain ⟨i, hlow, hhigh, hsend⟩ := hI.seated slot hslot hlive
  have haddr : message.infos.send = t.self.sendAddr i := by rw [hinfos, hsend]
  have hstart : SendUnderway t.self t.self.buffer (t.self.sendAddr i) h.cells t.self h :=
    ⟨rfl, hI.kept, hI.stored i hhigh, fun _ _ ↦ rfl⟩
  have hend : SendUnderway t.self t.self.buffer (t.self.sendAddr i) h.cells t'.self h' :=
    maintains_request message haddr t h hstart tr n t' h' hrun ha
  rw [hend.self]
  refine ⟨hend.kept, fun j hj ↦ ?_, fun a v hv hblock ↦ ?_, hI.pollNfds, hI.seated⟩
  · by_cases hj' : t.self.sendAddr j = t.self.sendAddr i
    · rw [hj']
      exact hend.stored
    · rw [hend.other _ hj']
      exact hI.stored j hj
  · by_cases ha : a = t.self.sendAddr i
    · exact ⟨i, hlow, hhigh, ha⟩
    · rw [hend.other a ha] at hv
      exact hI.owned a v hv hblock

private theorem Client.Linked.sendMessage {t t' : Thread UdtcpClient}
    (hI : Client.Linked true t.self h)
    (hinfos : message.infos = t.self.serverInfos) (hrun : Exec message.run t tr n t')
    (ha : heapKernel.Accepts h tr h') : Client.Linked true t'.self h' := by
  have haddr : message.infos.send = t.self.sendAddr := by rw [hinfos, hI.send rfl]
  have hstart : SendUnderway t.self t.self.buffer t.self.sendAddr h.cells t.self h :=
    ⟨rfl, hI.heap.kept, hI.heap.stored, fun _ _ ↦ rfl⟩
  have hend : SendUnderway t.self t.self.buffer t.self.sendAddr h.cells t'.self h' :=
    maintains_request message haddr t h hstart tr n t' h' hrun ha
  rw [hend.self]
  refine ⟨⟨hend.kept, hend.stored, fun a v hv hblock ↦ ?_⟩, hI.send⟩
  by_contra ha
  rw [hend.other a ha] at hv
  exact ha (hI.heap.owned a v hv hblock)

/-- At every point of a server's work its blocks have their owners. -/
theorem ServerWork.serverHeap {t : Thread (UdtcpServer m)} (work : ServerWork m done t h) :
    heapKernel.Accepts .start done h ∧ ServerHeap t.self h := by
  induction work with
  | create hrun ha => exact ⟨ha, must_udtcpCreateServer_heap _ _ _ _ hrun ha rfl⟩
  | pass _ hrun ha ih =>
    exact ⟨heapKernel.accepts_append.mpr ⟨_, ih.1, ha⟩,
      ServerHeap.udtcpServerPoll _ _ _ _ ih.2 _ _ _ _ hrun ha⟩
  | send _ hslot hlive hinfos hrun ha ih =>
    exact ⟨heapKernel.accepts_append.mpr ⟨_, ih.1, ha⟩, ih.2.send hslot hlive hinfos hrun ha⟩
  | configure _ _ _ _ _ _ ih => exact ⟨ih.1, ih.2.of_server rfl rfl rfl fun _ _ _ ↦ rfl⟩

/-- At every point of a client's work its blocks have their owners. -/
theorem ClientWork.linked {t : Thread UdtcpClient} (work : ClientWork link done t h) :
    heapKernel.Accepts .start done h ∧ Client.Linked link t.self h := by
  induction work with
  | create hrun ha => exact ⟨ha, must_udtcpCreateClient_heap _ _ _ _ hrun ha rfl, nofun⟩
  | connect _ hrun ha ih =>
    exact ⟨heapKernel.accepts_append.mpr ⟨_, ih.1, ha⟩,
      must_udtcpConnectClient_heap ih.2.heap _ _ _ _ hrun ha⟩
  | pass _ hrun ha ih =>
    exact ⟨heapKernel.accepts_append.mpr ⟨_, ih.1, ha⟩,
      Client.Linked.udtcpClientPoll _ _ _ _ ih.2 _ _ _ _ hrun ha⟩
  | send _ hinfos hrun ha ih =>
    exact ⟨heapKernel.accepts_append.mpr ⟨_, ih.1, ha⟩, ih.2.sendMessage hinfos hrun ha⟩
  | configure _ _ _ _ _ _ ih => exact ⟨ih.1, ih.2.heap.of_client rfl rfl, ih.2.send⟩

end

/-! ### A life with a block -/

private theorem three_nonneg : (0 : Fd) ≤ 3 := by decide

/-- Answers of system calls that succeed: the first free pointer for a block, a blank record for a
reception. -/
def obligingResult (h : Heap) : (c : SysCall) → c.Result
  | .socket _ => (⟨3, three_nonneg⟩ : Descriptor)
  | .setsockopt _ _ => ()
  | .bind _ _ => ()
  | .getsockname _ => SockaddrIn.zero
  | .listen _ _ => ()
  | .connect _ _ => ()
  | .accept _ => ((⟨3, three_nonneg⟩ : Descriptor), SockaddrIn.zero)
  | .getfl _ => (0 : Nat)
  | .setfl _ _ => ()
  | .poll fds _ => Vector.replicate fds.length POLLIN
  | .send _ data => ⟨data.length, length_le_self data⟩
  | .sendto _ data _ => ⟨data.length, length_le_self data⟩
  | .recv _ _ len => ⟨(List.replicate UdtcpInfos.sizeof 0).take len, List.length_take_le _ _⟩
  | .recvfrom _ _ len _ => (⟨[], Nat.zero_le len⟩, SockaddrIn.zero)
  | .shutdown _ => ()
  | .close _ => ()
  | .newBuffer size => ⟨⟨h.ledger.live.sup id + 1, size, fun _ ↦ 0⟩, rfl⟩
  | .newServer => (0 : UInt64)
  | .newClient => (0 : UInt64)

/-- Answers of surroundings that grant everything, with `name` for every address. -/
def obligingReply (name : Option (List UInt8)) (h : Heap) : (c : Call) → Option c.Reply
  | .sys c => some (.ok (obligingResult h c))
  | .gethostbyname _ => some (some ⟨[], 0⟩)
  | .gethostbyaddr _ => some name
  | .freeBuffer _ => some ()
  | .freeServer => some ()
  | .freeClient => some ()
  | .mutexInit _ => some true
  | .mutexDestroy _ => some ()
  | .mutexLock _ => some true
  | .mutexUnlock _ => some ()
  | .pollLoop => some false
  | .loadSend addr => some ((h.cells addr).getD .zero)
  | .storeSend _ _ => some ()
  | .callback _ => some ()
  | .fault => none

/-- The surroundings that grant everything. -/
def obliging (name : Option (List UInt8)) : Handler posix Heap := fun h c ↦
  (obligingReply name h c).map fun r ↦ (r, h.after c r)

/-- The surroundings of a client, but for the length of the names. -/
def anyNameKernel : Kernel posix Heap := fun h c r h' ↦
  (h.Allows c r ∨ ∃ key, c = .gethostbyaddr key) ∧ h' = h.after c r

private theorem anyNameKernel_of_obliging {name : Option (List UInt8)} {h h' : Heap} {c : Call}
    {r : c.Reply} (hk : (obliging name).kernel h c r h') : anyNameKernel h c r h' := by
  obtain ⟨r', hr, heq⟩ := Option.map_eq_some_iff.mp hk
  obtain ⟨rfl, rfl⟩ := Prod.mk.inj heq
  refine ⟨?_, rfl⟩
  by_cases hname : ∃ key, c = .gethostbyaddr key
  · exact .inr hname
  refine .inl ?_
  cases c with
  | sys c =>
    cases c with
    | newBuffer size =>
      obtain rfl := (Option.some.inj hr).symm
      intro hmem
      exact absurd (Finset.le_sup (f := id) hmem) (Nat.not_succ_le_self _)
    | _ => cases r' <;> trivial
  | gethostbyaddr key => exact absurd ⟨key, rfl⟩ hname
  | loadSend addr =>
    obtain rfl := (Option.some.inj hr).symm
    intro v hv
    exact ⟨v.mutex, by rw [hv]; rfl⟩
  | _ => trivial

/-- Without a name they are surroundings of a client. -/
theorem heapKernel_of_obliging {h h' : Heap} {c : Call} {r : c.Reply}
    (hk : (obliging none).kernel h c r h') : heapKernel h c r h' := by
  obtain ⟨hallows | ⟨key, rfl⟩, hafter⟩ := anyNameKernel_of_obliging hk
  · exact ⟨hallows, hafter⟩
  · obtain ⟨r', hr, heq⟩ := Option.map_eq_some_iff.mp hk
    obtain ⟨rfl, -⟩ := Prod.mk.inj heq
    obtain rfl := (Option.some.inj hr).symm
    exact ⟨trivial, hafter⟩

/-- A client that is created, connected, used for one message and deleted. -/
def oneMessage : ClientProc (Int × UdtcpConnect × Int) := do
  let created ← udtcpCreateClient [] 0 0 0
  let connected ← udtcpConnectClient [] 0 0
  let message : Request := ⟨(← self).serverInfos, false, ⟨[1], by decide⟩⟩
  let sent ← message.run
  udtcpDeleteClient
  return (created, connected, sent)

end Udtcp
