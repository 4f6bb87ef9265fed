import Udtcp.Receive.Sources

/-!
# Which datagrams are taken for messages

The two `receive_udp` of `server_poll.c:320–411` and `client_poll.c:149–243` peek at the size and
then ask for four bytes more than that: the kernel cuts a longer datagram to this length, and the
check of the length that follows does not see it. Lengths from 2^31 on do not fit the `int` they
are kept in.
-/

namespace Udtcp

open Interaction Routine

namespace Datagram

/-- The format: four bytes of size, and as many bytes as that says. -/
def WellFormed (d : Datagram) : Prop := d.HasSize ∧ d.bytes.length = 4 + d.size

/-- The datagrams the code takes for messages: those that hold at least the bytes announced, when
these fit an `int`. -/
def Taken (d : Datagram) : Prop := d.HasSize ∧ 4 + d.size ≤ d.bytes.length ∧ 4 + d.size < 2 ^ 31

/-- Neither longer than announced nor too long for an `int`. -/
def Discerned (d : Datagram) : Prop :=
  ¬ (d.HasSize ∧ 4 + d.size < d.bytes.length ∧ 4 + d.size < 2 ^ 31) ∧
    ¬ (d.WellFormed ∧ 2 ^ 31 ≤ d.bytes.length)

private theorem wellFormed_iff_taken_iff_discerned (d : Datagram) :
    (d.WellFormed ↔ d.Taken) ↔ d.Discerned := by
  unfold Discerned Taken WellFormed HasSize
  by_cases hsize : 4 ≤ d.bytes.length
  · simp only [hsize, true_and]
    omega
  · simp [hsize]

private theorem WellFormed.payload_eq {d : Datagram} (h : d.WellFormed) :
    d.payload = d.bytes.drop 4 := by
  rw [payload, Bytes.slice]
  apply List.take_of_length_le
  rw [List.length_drop, h.2]
  omega

end Datagram

/-- What is heard of a datagram that goes to `f`: its message if it has the format, else nothing. -/
def AcceptsFormat (f : List UInt8 → Callback) (d : Datagram) (heard : List Callback) : Prop :=
  (d.WellFormed → heard = [f (d.bytes.drop 4)]) ∧ (¬ d.WellFormed → heard = [])

section

variable {fd : Fd} {route : Route} {success : Nat → Int} {n : Int} {t t' : Thread ReceiveBuffer}
  {tr : Trace posix} {d : Datagram} {q q' : List Datagram} {f : List UInt8 → Callback}

/-- The check of the length, on what the kernel leaves of a datagram. -/
theorem cInt_check_iff {size len : Nat} (hsize : size < 2 ^ 32) (hlen : 4 ≤ len) :
    0 < cInt (min (4 + size) len) ∧ (cInt (min (4 + size) len) - 4) % 2 ^ 64 = size ↔
      4 + size ≤ len ∧ 4 + size < 2 ^ 31 := by
  generalize hk : min (4 + size) len = k
  by_cases hk32 : k < 2 ^ 32
  · rw [cInt_eq hk32]
    split <;> omega
  · have hint : cInt k = (k : Int) - 2 ^ 32 := by
      unfold cInt
      rw [Int.bmod_def]
      omega
    rw [hint]
    omega

private theorem takeDatagram_format (h : Exec (takeDatagram fd route success d.size) t tr n t')
    (ha : (queueKernel fd).Accepts (d :: q) tr q') (hroute : route d.source = some (some f))
    (hsize : d.HasSize) (hdata : t.self.bufferData.isSome) :
    (d.Taken → callbacksOf tr = [f d.payload]) ∧ (¬ d.Taken → callbacksOf tr = []) := by
  obtain ⟨r, rest, rfl, hcases⟩ := exec_takeDatagram_cases h
  obtain ⟨q₁, hq, -⟩ := ha
  have hcalls : callbacksOf (⟨.sys (.recvfrom fd (t.self.target 0) (4 + d.size) false), r⟩ ::
      rest) = callbacksOf rest := rfl
  rw [hcalls]
  cases r with
  | error e => simp [queueKernel, receptionOf] at hq
  | ok r =>
    obtain ⟨⟨bs, hbs⟩, addr⟩ := r
    obtain ⟨⟨rfl, rfl⟩, -⟩ : (bs = d.bytes.take (4 + d.size) ∧ addr = d.source) ∧ q₁ = q := by
      simpa [queueKernel, receptionOf] using hq
    obtain ⟨_, he, -⟩ | ⟨_, _, he, rfl, hend⟩ := hcases
    · cases he
    cases he
    have hmin : (d.bytes.take (4 + d.size)).length = min (4 + d.size) d.bytes.length :=
      List.length_take
    have hcheck := cInt_check_iff d.size_lt hsize
    have htaken : d.Taken ↔ 4 + d.size ≤ d.bytes.length ∧ 4 + d.size < 2 ^ 31 :=
      and_iff_right hsize
    dsimp only at hend
    rw [hmin] at hend
    rcases hend with ⟨rfl, -, hrefused⟩ | ⟨hpos, hlength, -, deliver, hdeliver, hcalled⟩
    · refine ⟨fun hc ↦ ?_, fun _ ↦ rfl⟩
      obtain ⟨hpos, hlength⟩ := hcheck.mpr (htaken.mp hc)
      cases hroute.symm.trans (hrefused hpos hlength)
    · have hc := htaken.mpr (hcheck.mp ⟨hpos, hlength⟩)
      refine ⟨fun _ ↦ ?_, fun hno ↦ absurd hc hno⟩
      obtain rfl := Option.some.inj (hroute.symm.trans hdeliver)
      obtain ⟨blk, hblk⟩ := Option.isSome_iff_exists.mp hdata
      have hread := Memory.read_write_zero blk.mem (d.bytes.take (4 + d.size)) 4 d.size
        (by rw [hmin]; exact Nat.le_min.mpr ⟨Nat.le_refl _, hc.2.1⟩)
      have hpayload : (t.self.fill 0 (d.bytes.take (4 + d.size))).bytes 4 d.size = d.payload := by
        simp only [ReceiveBuffer.fill, ReceiveBuffer.bytes, hblk, Option.map_some]
        rw [hread, Bytes.slice, List.drop_take, List.take_take, Nat.add_sub_cancel_left,
          Nat.min_self]
        rfl
      rw [(delivery_heard hcalled).1, hpayload]
      rfl

/-- **One datagram** of a known source, when memory is there. -/
theorem receiveUdpWith_format (h : Exec (receiveUdpWith fd route success) t tr n t')
    (ha : (queueKernel fd).Accepts (d :: q) tr q') (hroute : route d.source = some (some f))
    (halloc : AllocationsSucceed tr) (hp : t.self.Present) :
    AcceptsFormat f d (callbacksOf tr) ↔ d.Discerned := by
  have hheard : (d.Taken → callbacksOf tr = [f d.payload]) ∧
      (¬ d.Taken → callbacksOf tr = []) := by
    obtain ⟨size, rest, rfl, hcases⟩ := exec_receiveUdpWith h
    obtain ⟨q₁, hq, ha⟩ := ha
    have hcalls : callbacksOf (⟨.sys (.recvfrom fd .word 4 true), size⟩ :: rest) =
        callbacksOf rest := rfl
    rw [hcalls]
    cases size with
    | error e => simp [queueKernel, receptionOf] at hq
    | ok r =>
      obtain ⟨⟨bs, hbs⟩, addr⟩ := r
      obtain ⟨⟨rfl, rfl⟩, rfl⟩ : (bs = d.bytes.take 4 ∧ addr = d.source) ∧ q₁ = d :: q := by
        simpa [queueKernel, receptionOf] using hq
      have hfour : (d.bytes.take 4).length = 4 ↔ d.HasSize := by
        rw [List.length_take, Datagram.HasSize]
        omega
      have hallocRest := (allocationsSucceed_cons.mp halloc).2
      rcases hcases with ⟨_, he, -⟩ | ⟨_, _, he, h₄, rfl, -⟩ | ⟨_, _, he, -, hg, -⟩ |
        ⟨_, _, tr₁, t₁, tr₂, he, h₄, rfl, hg, ht⟩
      · cases he
      · cases he
        exact ⟨fun hc ↦ absurd (hfour.mpr hc.1) h₄, fun _ ↦ rfl⟩
      · cases he
        cases (growBuffer_dequeues hg ha).2.mp hallocRest
      · cases he
        obtain ⟨hquiet, -, -, hpresent⟩ := growBuffer_heard hg
        obtain ⟨q₂, hg', ha⟩ := (Kernel.accepts_append _).mp ha
        obtain ⟨rfl, -⟩ := growBuffer_dequeues hg hg'
        rw [callbacksOf_append, hquiet, List.nil_append]
        exact takeDatagram_format ht ha hroute (hfour.mp h₄) (hpresent rfl (by omega) hp)
  rw [← d.wellFormed_iff_taken_iff_discerned]
  by_cases hc : d.Taken
  · rw [hheard.1 hc]
    refine ⟨fun haccepts ↦ ⟨fun _ ↦ hc, fun _ ↦ ?_⟩, fun hsame ↦ ⟨fun hw ↦ ?_, fun hno ↦ ?_⟩⟩
    · by_contra hno
      cases haccepts.2 hno
    · rw [hw.payload_eq]
    · exact absurd (hsame.mpr hc) hno
  · rw [hheard.2 hc]
    refine ⟨fun haccepts ↦ ⟨fun hw ↦ ?_, fun htaken ↦ absurd htaken hc⟩, fun hsame ↦
      ⟨fun hw ↦ absurd (hsame.mp hw) hc, fun _ ↦ rfl⟩⟩
    cases haccepts.1 hw

end

private theorem not_oversizeGranted {route : Route} {success : Nat → Int} {fd : Fd} {n : Int}
    {t t' : Thread ReceiveBuffer} {tr : Trace posix} {d : Datagram} {q q' : List Datagram}
    (h : Exec (receiveUdpWith fd route success) t tr n t')
    (ha : (queueKernel fd).Accepts (d :: q) tr q') (hsize : 4 + d.size < 2 ^ 32) :
    ¬ OversizeGranted tr := by
  obtain ⟨size, rest, rfl, hrest⟩ := receiveUdpWith_peeks_once h
  rintro ⟨fd', bs, addr, hmem, -, hlarge, -⟩
  rcases List.mem_cons.mp hmem with he | he
  · cases he
    obtain ⟨q₁, hq, -⟩ := ha
    obtain ⟨⟨hbs, -⟩, -⟩ : (bs.val = d.bytes.take 4 ∧ addr = d.source) ∧ q₁ = d :: q := by
      simpa [queueKernel, receptionOf] using hq
    rw [hbs] at hlarge
    change 2 ^ 32 - 4 ≤ d.size at hlarge
    omega
  · exact hrest _ he fd' rfl

/-- **The format of datagrams.** With a buffer that is backed by its block and a datagram whose size
fits with its four bytes into 32 bits, a reception stays inside the buffer; and with memory, a
callback and, on the server, a source that is one of its clients, the datagram is heard of exactly
as its format says if and only if it is neither longer than announced nor too long for an `int`. -/
theorem udp_format_exact_iff (m : Nat) :
    (∀ (t t' : Thread (UdtcpServer m)) tr n d q q' slot, t.self.buffer.Backed →
      t.self.receiveUdpCallback = true → udtcpGetInfos t.self d.source = some slot →
      Exec receiveUdp t tr n t' →
      (queueKernel t.self.serverInfos.udpServerSocket).Accepts (d :: q) tr q' →
      4 + d.size < 2 ^ 32 → AllocationsSucceed tr → Contained tr t'.self.buffer ∧
      (AcceptsFormat (.receiveUdp slot (t.self.infos slot)) d (callbacksOf tr) ↔ d.Discerned)) ∧
    (∀ (t t' : Thread UdtcpClient) tr n d q q', t.self.buffer.Backed →
      t.self.receiveUdpCallback = true → Exec Client.receiveUdp t tr n t' →
      (queueKernel t.self.clientInfos.udpServerSocket).Accepts (d :: q) tr q' →
      4 + d.size < 2 ^ 32 → AllocationsSucceed tr → Contained tr t'.self.buffer ∧
      (AcceptsFormat (.receiveUdp 1 t.self.serverInfos) d (callbacksOf tr) ↔ d.Discerned)) := by
  constructor
  · intro t t' tr n d q q' slot hb hcb hslot h ha hsize halloc
    obtain ⟨u, hu, rfl⟩ := exec_receiveUdp.mp h
    have hroute : t.self.udpRoute d.source =
        some (some (.receiveUdp slot (t.self.infos slot))) := by
      rw [UdtcpServer.udpRoute, hslot, Option.map_some, if_pos hcb]
    exact ⟨(receiveUdpWith_contained_iff hu hb).mpr (not_oversizeGranted hu ha hsize),
      receiveUdpWith_format hu ha hroute halloc hb.present⟩
  · intro t t' tr n d q q' hb hcb h ha hsize halloc
    obtain ⟨u, hu, rfl⟩ := Client.exec_receiveUdp.mp h
    have hroute : some (Client.udpDeliver t.self) =
        some (some (.receiveUdp 1 t.self.serverInfos)) := by
      rw [Client.udpDeliver, if_pos hcb]
    exact ⟨(receiveUdpWith_contained_iff hu hb).mpr (not_oversizeGranted hu ha hsize),
      receiveUdpWith_format hu ha hroute halloc hb.present⟩

private theorem allocationsSucceed_of_refusal {tr : Trace posix} (h : refusal tr = none) :
    AllocationsSucceed tr := by
  intro e he hfailed
  have hnone := List.findSome?_eq_none_iff.mp h e he
  match e, hfailed with
  | ⟨.sys (.newBuffer _), .error _⟩, _ => cases hnone

/-- A message of one byte is heard of as it should be, by a server and by a client. -/
theorem udp_format_exact_message :
    (∃ (t t' : Thread (UdtcpServer 1)) (tr : Trace posix) (n : Int),
      Exec receiveUdp t tr n t' ∧ AcceptsFormat (.receiveUdp 2 (t.self.infos 2))
        ⟨.zero, [1, 0, 0, 0, 7]⟩ (callbacksOf tr)) ∧
    ∃ (t t' : Thread UdtcpClient) (tr : Trace posix) (n : Int), Exec Client.receiveUdp t tr n t' ∧
      AcceptsFormat (.receiveUdp 1 t.self.serverInfos) ⟨.zero, [1, 0, 0, 0, 7]⟩
        (callbacksOf tr) := by
  have hcomplete : (⟨.zero, [1, 0, 0, 0, 7]⟩ : Datagram).Complete := ⟨Nat.le_succ 4, Nat.le_refl 5⟩
  have hfits : (⟨.zero, [1, 0, 0, 0, 7]⟩ : Datagram).Fits := by simp [Datagram.Fits]
  have hdiscerned : (⟨.zero, [1, 0, 0, 0, 7]⟩ : Datagram).Discerned := by
    constructor
    · exact fun h ↦ absurd h.2.1 (by decide)
    · exact fun h ↦ absurd h.2 (by decide)
  have hsize : 4 + (⟨.zero, [1, 0, 0, 0, 7]⟩ : Datagram).size < 2 ^ 32 := by decide
  constructor
  · let s : UdtcpServer 1 :=
      { (UdtcpServer.listening 3 4 : UdtcpServer 1) with pollNfds := 3, receiveUdpCallback := true }
    obtain ⟨tr, n, u, hu, ha, hnone⟩ : ∃ tr n u,
        Exec (receiveUdpWith s.serverInfos.udpServerSocket s.udpRoute cInt) ⟨.other 0, s.buffer⟩
          tr n u ∧ _ := may_receiveUdpWith (q := []) hcomplete hfits
    have hrun : Exec receiveUdp ⟨.other 0, s⟩ tr n _ := exec_receiveUdp.mpr ⟨u, hu, rfl⟩
    exact ⟨⟨.other 0, s⟩, _, tr, n, hrun, ((udp_format_exact_iff 1).1 _ _ _ _ _ _ _ 2 .empty rfl
      (by decide) hrun ha hsize
      (allocationsSucceed_of_refusal hnone)).2.mpr hdiscerned⟩
  · let c : UdtcpClient := { UdtcpClient.zero 0 with receiveUdpCallback := true }
    obtain ⟨tr, n, u, hu, ha, hnone⟩ : ∃ tr n u,
        Exec (receiveUdpWith c.clientInfos.udpServerSocket (fun _ ↦ some (Client.udpDeliver c))
          fun _ ↦ 1) ⟨.other 0, c.buffer⟩ tr n u ∧ _ := may_receiveUdpWith (q := []) hcomplete hfits
    have hrun : Exec Client.receiveUdp ⟨.other 0, c⟩ tr n _ :=
      Client.exec_receiveUdp.mpr ⟨u, hu, rfl⟩
    exact ⟨⟨.other 0, c⟩, _, tr, n, hrun, ((udp_format_exact_iff 1).2 _ _ _ _ _ _ _ .empty rfl
      hrun ha hsize (allocationsSucceed_of_refusal hnone)).2.mpr hdiscerned⟩

/-- **The defect.** A datagram with one byte more than it announces is heard of as a message. -/
theorem udp_overlong_datagram_heard : ∃ (created done tr tr' : Trace posix)
    (t t' u' : Thread UdtcpClient) (n : Int) (d : Datagram), ClientRun created done t ∧
      Exec (udtcpConnectClient [] 0 0) t tr .success t' ∧
      Exec Client.receiveUdp ⟨.other 0, t'.self.withCallbacks false false false true⟩ tr' n u' ∧
      (queueKernel t'.self.clientInfos.udpServerSocket).Accepts [d] tr' [] ∧
      AllocationsSucceed tr' ∧ d.From t'.self.serverInfos ∧
      d.bytes.length = 4 + d.size + 1 ∧
      (∃ data, callbacksOf tr' = [.receiveUdp 1 t'.self.serverInfos data]) ∧
      ¬ AcceptsFormat (.receiveUdp 1 t'.self.serverInfos) d (callbacksOf tr') := by
  obtain ⟨created, done, tr, t, t', hrun, hconnect, -⟩ := exists_connected
  let c := t'.self.withCallbacks false false false true
  let d : Datagram := ⟨t'.self.serverInfos.udpClientAddr, [1, 0, 0, 0, 7, 8]⟩
  have hcomplete : d.Complete := ⟨Nat.le_add_right 4 2, Nat.le_succ 5⟩
  have hfits : d.Fits := by simp [Datagram.Fits, d]
  obtain ⟨tr', n, u, hu, ha, hnone⟩ : ∃ tr n u,
      Exec (receiveUdpWith c.clientInfos.udpServerSocket (fun _ ↦ some (Client.udpDeliver c))
        fun _ ↦ 1) ⟨.other 0, c.buffer⟩ tr n u ∧ _ := may_receiveUdpWith (q := []) hcomplete hfits
  obtain ⟨-, data, hheard, -⟩ := (receiveUdpWith_handled hu ha hfits).taken hcomplete hnone _ rfl
  have hone : callbacksOf tr' = [.receiveUdp 1 t'.self.serverInfos data] := hheard
  refine ⟨created, done, tr, tr', t, t', _, n, d, hrun, hconnect,
    Client.exec_receiveUdp.mpr ⟨u, hu, rfl⟩, ha, allocationsSucceed_of_refusal hnone, ⟨rfl, rfl⟩,
    rfl, ⟨data, hone⟩, fun haccepts ↦ ?_⟩
  have hlong : ¬ d.WellFormed := fun hw ↦ by
    have hlength : 6 = 4 + 1 := hw.2
    omega
  cases hone.symm.trans (haccepts.2 hlong)

end Udtcp
