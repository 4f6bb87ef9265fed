import Udtcp.Client.Create
import Udtcp.Liveness.Supply
import Udtcp.Receive.Reassembly
import Udtcp.Receive.Roles
import Udtcp.Server.Accept
import Udtcp.Server.Rounds
import Udtcp.Transfer.RoundTrip

/-!
# A pass comes to an end

The loops of `udtcp_server_poll` (`server_poll.c:439–539`) and `udtcp_client_poll`
(`client_poll.c:272–361`) go on as long as the network has something for them, and no longer.
-/

namespace Udtcp

open Interaction Routine

/-! ### A network with a budget -/

/-- Surroundings that let `k` things be taken, whatever else they answer. -/
def budgetKernel : Kernel posix Nat
  | k, .gethostbyaddr _, name, k' => (∀ text, name = some text → NameFits text) ∧ k' = k
  | k, c, r, k' => Consumes c r ∧ k = k' + 1 ∨ ¬ Consumes c r ∧ k' = k

private theorem supplies_budgetKernel : Supplies budgetKernel id := by
  have hcases {k : Nat} {c : Call} {r : c.Reply} {k' : Nat} (h : budgetKernel k c r k') :
      Consumes c r ∧ k = k' + 1 ∨ ¬ Consumes c r ∧ k' = k := by
    cases c with
    | gethostbyaddr key => exact .inr ⟨id, h.2⟩
    | _ => exact h
  refine ⟨fun k c r k' hk ↦ ?_, fun k c r k' hk htaken ↦ ?_, fun k key name k' hk ↦ hk.1 name rfl⟩
  · rcases hcases hk with ⟨-, rfl⟩ | ⟨-, rfl⟩
    · exact Nat.le_succ _
    · exact Nat.le_refl _
  · rcases hcases hk with ⟨-, rfl⟩ | ⟨hnot, -⟩
    · exact Nat.lt_succ_self _
    · exact absurd htaken hnot

private theorem answers_budgetKernel : budgetKernel.Answers := by
  intro k c hc
  cases c with
  | gethostbyaddr key => exact ⟨none, k, nofun, rfl⟩
  | sys c =>
    refine ⟨.error (.other 0), k, .inr ⟨?_, rfl⟩⟩
    cases c with
    | recvfrom fd target len peek => cases peek <;> exact id
    | _ => exact id
  | fault => exact hc.elim nofun
  | _ =>
    obtain ⟨r⟩ := hc
    exact ⟨r, k, .inr ⟨id, rfl⟩⟩

/-! ### Receptions -/

section

variable {K : Type} {ker : Kernel posix K} {supply : K → Nat} {t t' : Thread ReceiveBuffer}
  {k k' : K} {fd : Fd} {route : Route} {deliver : Option (List UInt8 → Callback)}
  {success : Nat → Int} {n : Int}
  {tr : Trace posix}

private theorem returns_takeDatagram (size : Nat) :
    Returns (takeDatagram fd route success size) := by
  unfold takeDatagram
  refine returns_self.bind fun b ↦ (returns_syscall _).bind fun r ↦ ?_
  cases r with
  | error e => exact returns_pure _
  | ok d =>
    obtain ⟨bs, addr⟩ := d
    dsimp only
    with_reducible refine Returns.bind (returns_update _) fun _ ↦ ?_
    with_reducible refine .ite (returns_pure _) (.ite (returns_pure _) (.ite (returns_pure _) ?_))
    cases route addr with
    | none => exact returns_pure _
    | some deliver =>
      cases deliver with
      | some f => exact returns_self.bind fun b ↦ (returns_issue ⟨()⟩).bind fun _ ↦ returns_pure _
      | none => exact returns_pure _

/-- Whatever the receiver is answered, it returns. -/
theorem returns_receiveUdpWith : Returns (receiveUdpWith fd route success) := by
  refine (returns_syscall _).bind fun r ↦ ?_
  cases r with
  | error e => exact returns_pure _
  | ok size =>
    refine .ite (returns_pure _) (.ite (returns_pure _) ((returns_growBuffer _).bind fun ok ↦ ?_))
    exact .ite (returns_takeDatagram _) (returns_pure _)

/-- A reception that reports success took the size of its message. -/
theorem consumes_receiveTcpWith (h : Exec (receiveTcpWith fd deliver success) t tr n t')
    (hn : 0 < n) : ∃ e ∈ tr, Consumes e.call e.reply := by
  obtain ⟨size, rest, rfl, hcases⟩ := exec_receiveTcpWith h
  rcases hcases with ⟨e, -, -, rfl, -⟩ | ⟨bs, -, -, -, hret, -⟩ | ⟨bs, -, -, -, rfl⟩ |
    ⟨bs, -, -, -, rfl, hlen, -⟩
  · omega
  · split at hret <;> omega
  · omega
  · refine ⟨_, List.mem_cons_self, fun hnil ↦ ?_⟩
    rw [hnil] at hlen
    cases hlen

/-- A reception that reports success took its datagram. -/
theorem consumes_receiveUdpWith (h : Exec (receiveUdpWith fd route success) t tr n t')
    (hn : 0 < n) : ∃ e ∈ tr, Consumes e.call e.reply := by
  obtain ⟨size, rest, rfl, hcases⟩ := exec_receiveUdpWith h
  rcases hcases with ⟨e, -, -, rfl, -⟩ | ⟨bs, addr, -, -, -, hret, -⟩ | ⟨bs, addr, -, -, -, rfl⟩ |
    ⟨bs, addr, tr₁, t₁, tr₂, -, -, rfl, -, htake⟩
  · omega
  · split at hret <;> omega
  · omega
  · obtain ⟨r, rest, rfl, -, ⟨e, rfl, -, rfl, -⟩ | ⟨bs, addr, rfl, -⟩⟩ := exec_takeDatagram htake
    · omega
    · exact ⟨_, List.mem_cons_of_mem _ (List.mem_append_right _ List.mem_cons_self), trivial⟩

private theorem total_reception {τ K : Type} {I : Thread τ → K → Prop} {ker : Kernel posix K}
    {supply : K → Nat} {receive : Proc τ Int} {t : Thread τ} {k : K} (hker : Supplies ker supply)
    (hreturns : Returns receive)
    (hrun : ∀ tr n t' k', Exec receive t tr n t' → ker.Accepts k tr k' →
      I t' k' ∧ (0 < n → ∃ e ∈ tr, Consumes e.call e.reply)) :
    Total ker receive t k fun n t' k' ↦
      I t' k' ∧ (decide (0 < n) = true → supply k' < supply k) := by
  refine hreturns.total_of_must fun tr n t' k' hexec ha ↦ ?_
  obtain ⟨hkept, htakes⟩ := hrun tr n t' k' hexec ha
  exact ⟨hkept, fun hn ↦ hker.accepts_lt ha (htakes (of_decide_eq_true hn))⟩

end

/-! ### The server -/

section

variable {m : Nat} {K : Type} {ker : Kernel posix K} {supply : K → Nat}
  {t : Thread (UdtcpServer m)} {k : K} {fuel slot least bound : Nat}

private theorem returns_addOption {τ : Type} (fd : Fd) (option : Nat) :
    Returns (udtcpSocketAddOption fd option : Proc τ Int) := by
  refine (returns_syscall _).bind fun r ↦ ?_
  cases r with
  | error e => exact returns_pure _
  | ok flags =>
    refine (returns_syscall _).bind fun r ↦ ?_
    cases r with
    | error e => exact returns_pure _
    | ok u => exact returns_pure _

private theorem returns_writeRecord (bs : List UInt8) :
    Returns (writeRecord slot bs : ServerProc m Unit) := by
  refine (returns_update _).bind fun _ ↦ ?_
  cases bs[UdtcpInfos.sizeof]? with
  | none => exact returns_pure _
  | some b =>
    refine .ite (returns_update _) (returns_self.bind fun s ↦ ?_)
    exact (returns_request ⟨UdtcpSend.zero⟩).bind fun value ↦ returns_issue ⟨()⟩

private theorem returns_initializeConnection :
    Returns (initializeConnection slot : ServerProc m Int) := by
  refine returns_self.bind fun s ↦ (returns_syscall _).bind fun r ↦ ?_
  refine .ite (returns_pure _) (returns_pollIn.bind fun n ↦ .ite (returns_pure _) ?_)
  refine returns_self.bind fun s ↦ (returns_syscall _).bind fun r ↦ ?_
  cases r with
  | error e => exact returns_pure _
  | ok bs =>
    refine (returns_writeRecord _).bind fun _ ↦ .ite (returns_pure _) (returns_self.bind fun s ↦ ?_)
    exact (returns_update _).bind fun _ ↦ returns_pure _

private theorem returns_refuseClient : Returns (refuseClient : ServerProc m Int) := by
  refine returns_self.bind fun s ↦ (returns_syscall _).bind fun r ↦ ?_
  cases r with
  | error e => exact returns_pure _
  | ok peer =>
    exact (returns_syscall _).bind fun _ ↦ (returns_syscall _).bind fun _ ↦ returns_pure _

private theorem returns_closeSlot : Returns (do
    let _ ← syscall (.close ((← self).infos slot).tcpSocket)
    return -1 : ServerProc m Int) :=
  returns_self.bind fun _ ↦ (returns_syscall _).bind fun _ ↦ returns_pure _

private theorem returns_dropClient : Returns (dropClient slot : ServerProc m Unit) := by
  refine Returns.bind ?_ fun _ ↦ returns_update _
  refine returns_self.bind fun s ↦ (returns_syscall _).bind fun _ ↦ returns_self.bind fun s ↦ ?_
  refine (returns_syscall _).bind fun _ ↦ returns_self.bind fun s ↦ ?_
  exact .ite (returns_issue ⟨()⟩) (returns_pure _)

private theorem total_copyText {r : Thread UdtcpInfos} {offset : Nat} {text : List UInt8}
    (h : offset + text.length ≤ UdtcpInfos.sizeof) :
    Total ker (copyText offset text) r k fun _ _ _ ↦ True := by
  unfold copyText
  rw [if_pos h]
  exact total_update trivial

private theorem total_setStringInfos (hker : Supplies ker supply) {r : Thread UdtcpInfos}
    {addr : UdtcpInfos → SockaddrIn} :
    Total ker (udtcpSetStringInfos addr) r k fun _ _ _ ↦ True := by
  unfold udtcpSetStringInfos
  refine total_self_bind (total_request_bind ⟨none⟩ fun name k₁ hk ↦ ?_)
  have hip (a : UInt32) : UdtcpInfos.ipOffset + (inetNtoa a).length ≤ UdtcpInfos.sizeof := by
    have := length_inetNtoa a
    simp only [UdtcpInfos.ipOffset, UdtcpInfos.sizeof]
    omega
  cases name with
  | some name =>
    have hname := hker.name _ _ _ _ hk
    refine total_bind ((total_copyText ?_).mono fun _ r₁ k₁ _ ↦
      total_self_bind (total_copyText (hip _)))
    simp only [UdtcpInfos.hostnameOffset, UdtcpInfos.sizeof]
    omega
  | none =>
    refine total_self_bind (total_bind ((total_copyText (hip _)).mono fun _ r₁ k₁ _ ↦
      total_copyText ?_))
    have := length_inetNtoa (addr r.self).sAddr
    simp only [UdtcpInfos.hostnameOffset, UdtcpInfos.sizeof]
    omega

private theorem total_registerClient (hker : Supplies ker supply) :
    Total ker (registerClient slot) t k fun _ _ _ ↦ True := by
  unfold registerClient
  refine total_self_bind (total_update_bind (total_bind (total_onPart ?_)))
  refine (total_setStringInfos hker).mono fun _ r k₁ _ ↦ ?_
  refine total_update_bind (total_update_bind (total_self_bind (total_ite (fun _ ↦ ?_) fun _ ↦ ?_)))
  · exact total_issue_bind ⟨()⟩ fun _ _ _ ↦ total_update trivial
  · exact total_update trivial

private theorem total_acceptClient (hker : Supplies ker supply) :
    Total ker acceptClient t k fun _ _ _ ↦ True := by
  unfold acceptClient
  refine total_self_bind (total_ite (fun _ ↦ returns_refuseClient.total) fun _ ↦ ?_)
  refine total_syscall_bind fun r k₁ _ ↦ ?_
  cases r with
  | error e => exact total_update_bind (total_pure trivial)
  | ok peer =>
    refine total_update_bind ?_
    unfold admitClient
    refine total_self_bind (total_bind ((returns_addOption _ _).total.mono fun o t₁ k₁ _ ↦ ?_))
    refine total_ite (fun _ ↦ returns_closeSlot.total) fun _ ↦ total_bind ?_
    refine returns_initializeConnection.total.mono fun o t₂ k₂ _ ↦ ?_
    refine total_ite (fun _ ↦ returns_closeSlot.total) fun _ ↦ total_bind ?_
    exact (total_registerClient hker).mono fun _ _ _ _ ↦ total_pure trivial

-- The table reaches beyond slot `least`, and its entries and what the network has left come to at
-- most `bound`: a client that joins was taken from the network.
private def Affords (supply : K → Nat) (least bound : Nat) (t : Thread (UdtcpServer m)) (k : K) :
    Prop :=
  least < t.self.pollNfds ∧ t.self.pollNfds + supply k ≤ bound

private theorem affords_call (hker : Supplies ker supply) {t' : Thread (UdtcpServer m)} {k' : K}
    {tr : Trace posix} (h : Affords supply least bound t k) (ha : ker.Accepts k tr k')
    (hnfds : t'.self.pollNfds = t.self.pollNfds) : Affords supply least bound t' k' := by
  have hle := hker.accepts_le ha
  unfold Affords at *
  omega

private theorem must_acceptClient (hker : Supplies ker supply)
    (h : Affords supply least bound t k) :
    Must ker acceptClient t k fun n t' k' ↦
      Affords supply least bound t' k' ∧ (decide (n = 0) = true → supply k' < supply k) := by
  intro tr n t' k' hrun ha
  by_cases hn : n = -1
  · subst hn
    obtain ⟨hkept, -⟩ := sightings_acceptClient_failed hrun
    exact ⟨affords_call hker h ha hkept.pollNfds, fun hzero ↦ absurd hzero (by decide)⟩
  · obtain ⟨-, -, fd, addr, bs, name, r, -, hself, -, -⟩ :=
      sightings_acceptClient_done hrun hn (Nat.zero_lt_of_lt h.1)
    have hlt : supply k' < supply k := by
      refine hker.accepts_lt ha ?_
      rcases exec_acceptClient hrun with ⟨e, -, hfail, -⟩ | ⟨fd, addr, rest, rfl, -⟩
      · exact absurd hfail hn
      · exact ⟨_, List.mem_cons_self, trivial⟩
    refine ⟨?_, fun _ ↦ hlt⟩
    have hnfds : t'.self.pollNfds = t.self.pollNfds + 1 := by
      rw [hself]
      rfl
    unfold Affords at *
    omega

private theorem affords_flag (hker : Supplies ker supply) {k' : K} {r : Call.pollLoop.Reply}
    (h : Affords supply least bound t k) (hk : ker k .pollLoop r k') :
    Affords supply least bound t k' := by
  have hle := hker.le _ _ _ _ hk
  unfold Affords at *
  omega

private theorem total_receiveTcp (hker : Supplies ker supply) (h : Affords supply least bound t k) :
    Total ker (receiveTcp slot) t k fun n t' k' ↦
      Affords supply least bound t' k' ∧ (decide (0 < n) = true → supply k' < supply k) := by
  refine total_reception hker (returns_self.bind fun s ↦ Returns.onPart returns_receiveTcpWith)
    fun tr n t' k' hrun ha ↦ ?_
  obtain ⟨u, hu, rfl⟩ := exec_receiveTcp.mp hrun
  exact ⟨affords_call hker h ha rfl, consumes_receiveTcpWith hu⟩

private theorem total_receiveUdp (hker : Supplies ker supply) (h : Affords supply least bound t k) :
    Total ker receiveUdp t k fun n t' k' ↦
      Affords supply least bound t' k' ∧ (decide (0 < n) = true → supply k' < supply k) := by
  refine total_reception hker (returns_self.bind fun s ↦ Returns.onPart returns_receiveUdpWith)
    fun tr n t' k' hrun ha ↦ ?_
  obtain ⟨u, hu, rfl⟩ := exec_receiveUdp.mp hrun
  exact ⟨affords_call hker h ha rfl, consumes_receiveUdpWith hu⟩

private theorem total_dropClient (hker : Supplies ker supply) (h : Affords supply least bound t k) :
    Total ker (dropClient slot) t k fun _ t' k' ↦ Affords supply least bound t' k' := by
  refine returns_dropClient.total_of_must fun tr u t' k' hrun ha ↦ ?_
  obtain ⟨r, r', rest, -, -, hself⟩ := exec_dropClient hrun
  refine affords_call hker h ha ?_
  rw [hself]
  rfl

private theorem total_serveClient (hker : Supplies ker supply) (h : Affords supply least bound t k)
    (hfuel : supply k < fuel) :
    Total ker (serveClient fuel slot) t k fun _ t' k' ↦ Affords supply least bound t' k' := by
  have hleave {t₁ : Thread (UdtcpServer m)} {k₁ : K} (h₁ : Affords supply least bound t₁ k₁) :
      Total ker (do
        dropClient slot
        return true) t₁ k₁ fun _ t' k' ↦ Affords supply least bound t' k' :=
    total_bind ((total_dropClient hker h₁).mono fun _ _ _ h' ↦ total_pure h')
  unfold serveClient
  refine total_bind ((total_drain (I := Affords supply least bound) hker hfuel
    (fun _ _ _ _ ↦ affords_flag hker) (fun _ _ ↦ total_receiveTcp hker) h).mono fun n t₁ k₁ h₁ ↦ ?_)
  refine total_ite (fun _ ↦
    total_errno_bind (total_ite (fun _ ↦ hleave h₁) fun _ ↦ total_pure h₁)) ?_
  exact fun _ ↦ total_ite (fun _ ↦ hleave h₁) fun _ ↦ total_pure h₁

private theorem total_serveSlot (hker : Supplies ker supply) (h : Affords supply least bound t k)
    (hfuel : supply k < fuel) :
    Total ker (serveSlot fuel slot) t k fun _ t' k' ↦ Affords supply least bound t' k' := by
  unfold serveSlot
  refine total_self_bind (total_ite (fun _ ↦ total_pure h) fun _ ↦
    total_ite (fun _ ↦ total_pure h) fun _ ↦ total_ite (fun _ ↦ ?_) fun _ ↦
    total_ite (fun _ ↦ ?_) fun _ ↦ total_serveClient hker h hfuel)
  · exact total_bind ((total_drain (I := Affords supply least bound) hker hfuel
      (fun _ _ _ _ ↦ affords_flag hker)
      (fun _ _ h ↦ (total_acceptClient hker).of_must (must_acceptClient hker h)) h).mono
      fun _ _ _ h' ↦ total_pure h')
  · exact total_bind ((total_drain (I := Affords supply least bound) hker hfuel
      (fun _ _ _ _ ↦ affords_flag hker) (fun _ _ ↦ total_receiveUdp hker) h).mono
      fun _ _ _ h' ↦ total_pure h')

/-- Compaction adds no entries. -/
theorem UdtcpServer.pollNfds_compact_le (s : UdtcpServer m) : s.compact.pollNfds ≤ s.pollNfds := by
  have hfrom (rounds i : Nat) (s : UdtcpServer m) :
      (s.compactFrom rounds i).pollNfds ≤ s.pollNfds := by
    induction rounds generalizing i s with
    | zero => exact Nat.le_refl _
    | succ rounds ih =>
      unfold UdtcpServer.compactFrom
      split
      · split
        · refine Nat.le_trans (ih i _) ?_
          unfold UdtcpServer.removeSlot
          split <;> exact Nat.sub_le _ _
        · exact ih _ _
      · exact Nat.le_refl _
  exact hfrom _ _ s

private theorem total_scan (hker : Supplies ker supply)
    (hfuel : t.self.pollNfds + supply k < fuel) :
    Total ker (Routine.loop (scanSlot fuel) fuel (0, false)) t k fun _ t' k' ↦
      t'.self.pollNfds + supply k' ≤ t.self.pollNfds + supply k := by
  generalize hbound : t.self.pollNfds + supply k = bound at *
  refine total_loop (fun _ t k ↦ t.self.pollNfds + supply k ≤ bound)
    (fun i t k ↦ t.self.pollNfds - i.1 + supply k) (Nat.le_of_eq hbound) (by omega) ?_
  intro i t k hI
  have hI : t.self.pollNfds + supply k ≤ bound := hI
  unfold scanSlot
  refine total_request_bind ⟨true⟩ fun on k₁ hk ↦
    total_self_bind (total_ite (fun hon ↦ ?_) fun _ ↦ ?_)
  · have hi : i.1 < t.self.pollNfds := of_decide_eq_true (Bool.and_eq_true_iff.mp hon).2
    have hle := hker.le _ _ _ _ hk
    have hafford : Affords supply i.1 (t.self.pollNfds + supply k₁) t k₁ := ⟨hi, Nat.le_refl _⟩
    refine total_bind ((total_serveSlot hker hafford (by omega)).mono fun marked t₂ k₂ h₂ ↦ ?_)
    obtain ⟨hi₂, h₂⟩ := h₂
    refine total_pure ⟨?_, ?_⟩
    · show t₂.self.pollNfds + supply k₂ ≤ bound
      omega
    · show t₂.self.pollNfds - (i.1 + 1) + supply k₂ < t.self.pollNfds - i.1 + supply k
      omega
  · have hle := hker.le _ _ _ _ hk
    refine total_pure ?_
    show t.self.pollNfds + supply k₁ ≤ bound
    omega

/-- A pass ends, if it is followed for more rounds than there are entries in the table and things
left to take, and the table has grown by no more than was taken. -/
theorem total_udtcpServerPoll (hker : Supplies ker supply) (timeout : Int)
    (hfuel : t.self.pollNfds + supply k < fuel) :
    Total ker (udtcpServerPoll fuel timeout) t k fun _ t' k' ↦
      t'.self.pollNfds + supply k' ≤ t.self.pollNfds + supply k := by
  unfold udtcpServerPoll
  refine total_self_bind (total_syscall_bind fun reply k₁ hk ↦ ?_)
  have hle := hker.le _ _ _ _ hk
  cases reply with
  | error e =>
    have hsame : t.self.pollNfds + supply k₁ ≤ t.self.pollNfds + supply k := by omega
    exact total_errno_bind (total_ite (fun _ ↦ total_pure hsame) fun _ ↦ total_pure hsame)
  | ok revents =>
    refine total_update_bind (total_ite (fun _ ↦ total_pure ?_) fun _ ↦ total_bind ?_)
    · show t.self.pollNfds + supply k₁ ≤ _
      omega
    · have hfuel₁ : t.self.pollNfds + supply k₁ < fuel := by omega
      refine (total_scan (t := ⟨t.errno, t.self.setRevents _⟩) hker hfuel₁).mono ?_
      intro organise t₂ k₂ h₂
      have h₂ : t₂.self.pollNfds + supply k₂ ≤ t.self.pollNfds + supply k₁ := h₂
      have hcompact := t₂.self.pollNfds_compact_le
      refine total_ite (fun _ ↦ total_update_bind (total_pure ?_)) fun _ ↦ total_pure (by omega)
      show t₂.self.compact.pollNfds + supply k₂ ≤ _
      omega

end

namespace Client

variable {K : Type} {ker : Kernel posix K} {supply : K → Nat} {t : Thread UdtcpClient} {k : K}
  {fuel nfds left : Nat}

private theorem returns_disconnect : Returns disconnect := by
  refine returns_self.bind fun c ↦ (returns_syscall _).bind fun _ ↦ returns_self.bind fun c ↦ ?_
  refine (returns_syscall _).bind fun _ ↦ (returns_update _).bind fun _ ↦
    returns_self.bind fun c ↦ ?_
  exact .ite (returns_issue ⟨()⟩) (returns_pure _)

-- The client has `nfds` entries, and the network has at most `left` things left.
private def Spends (supply : K → Nat) (nfds left : Nat) (t : Thread UdtcpClient) (k : K) : Prop :=
  t.self.pollNfds = nfds ∧ supply k ≤ left

private theorem spends_call (hker : Supplies ker supply) {t' : Thread UdtcpClient} {k' : K}
    {tr : Trace posix} (h : Spends supply nfds left t k) (ha : ker.Accepts k tr k')
    (hnfds : t'.self.pollNfds = t.self.pollNfds) : Spends supply nfds left t' k' :=
  ⟨hnfds.trans h.1, Nat.le_trans (hker.accepts_le ha) h.2⟩

private theorem spends_flag (hker : Supplies ker supply) {k' : K} {r : Call.pollLoop.Reply}
    (h : Spends supply nfds left t k) (hk : ker k .pollLoop r k') : Spends supply nfds left t k' :=
  ⟨h.1, Nat.le_trans (hker.le _ _ _ _ hk) h.2⟩

private theorem total_receiveTcp (hker : Supplies ker supply) (h : Spends supply nfds left t k) :
    Total ker receiveTcp t k fun n t' k' ↦
      Spends supply nfds left t' k' ∧ (decide (0 < n) = true → supply k' < supply k) := by
  refine total_reception hker (returns_self.bind fun c ↦ Returns.onPart returns_receiveTcpWith)
    fun tr n t' k' hrun ha ↦ ?_
  obtain ⟨u, hu, rfl⟩ := exec_receiveTcp.mp hrun
  exact ⟨spends_call hker h ha rfl, consumes_receiveTcpWith hu⟩

private theorem total_receiveUdp (hker : Supplies ker supply) (h : Spends supply nfds left t k) :
    Total ker receiveUdp t k fun n t' k' ↦
      Spends supply nfds left t' k' ∧ (decide (0 < n) = true → supply k' < supply k) := by
  refine total_reception hker (returns_self.bind fun c ↦ Returns.onPart returns_receiveUdpWith)
    fun tr n t' k' hrun ha ↦ ?_
  obtain ⟨u, hu, rfl⟩ := exec_receiveUdp.mp hrun
  exact ⟨spends_call hker h ha rfl, consumes_receiveUdpWith hu⟩

private theorem total_disconnect (hker : Supplies ker supply) (h : Spends supply nfds left t k) :
    Total ker disconnect t k fun _ t' k' ↦ Spends supply nfds left t' k' := by
  refine returns_disconnect.total_of_must ?_
  have hcall {c : Call} {r : c.Reply} {t : Thread UdtcpClient} {k k' : K}
      (h : Spends supply nfds left t k) (hk : ker k c r k') : Spends supply nfds left t k' :=
    ⟨h.1, Nat.le_trans (hker.le _ _ _ _ hk) h.2⟩
  have hnote {α : Type} {t : Thread UdtcpClient} {k : K} (r : Except Errno α)
      (h : Spends supply nfds left t k) : Spends supply nfds left (t.note r) k :=
    ⟨by rw [Thread.note_self]; exact h.1, h.2⟩
  unfold disconnect
  refine must_self_bind (must_syscall_bind fun r k₁ hk ↦ must_self_bind (must_syscall_bind ?_))
  intro r' k₂ hk'
  have h₂ := hnote r' (hcall (hnote r (hcall h hk)) hk')
  refine must_update_bind (must_self_bind (must_ite (fun _ ↦ must_issue fun _ k₃ hk₃ ↦ ?_)
    fun _ ↦ ?_))
  · exact ⟨h₂.1, (hcall h₂ hk₃).2⟩
  · exact must_pure ⟨h₂.1, h₂.2⟩

private theorem total_serveSocket (hker : Supplies ker supply) (h : Spends supply nfds left t k)
    (hfuel : left < fuel) {receive : ClientProc Int}
    (hreceive : ∀ t k, Spends supply nfds left t k → Total ker receive t k fun n t' k' ↦
      Spends supply nfds left t' k' ∧ (decide (0 < n) = true → supply k' < supply k)) :
    Total ker (serveSocket fuel receive) t k fun _ t' k' ↦ Spends supply nfds left t' k' := by
  have hleave {t₁ : Thread UdtcpClient} {k₁ : K} (h₁ : Spends supply nfds left t₁ k₁) :
      Total ker (do
        disconnect
        return some UdtcpPoll.error) t₁ k₁ fun _ t' k' ↦ Spends supply nfds left t' k' :=
    total_bind ((total_disconnect hker h₁).mono fun _ _ _ h' ↦ total_pure h')
  unfold serveSocket
  refine total_bind ((total_drain (I := Spends supply nfds left) hker (Nat.lt_of_le_of_lt h.2 hfuel)
    (fun _ _ _ _ ↦ spends_flag hker) hreceive h).mono fun n t₁ k₁ h₁ ↦ ?_)
  refine total_ite (fun _ ↦
    total_errno_bind (total_ite (fun _ ↦ hleave h₁) fun _ ↦ total_pure h₁)) ?_
  exact fun _ ↦ total_ite (fun _ ↦ hleave h₁) fun _ ↦ total_pure h₁

private theorem total_serveEntry (hker : Supplies ker supply) (h : Spends supply nfds left t k)
    (hfuel : left < fuel) (i : Nat) :
    Total ker (serveEntry fuel i) t k fun _ t' k' ↦ Spends supply nfds left t' k' := by
  unfold serveEntry
  refine total_self_bind (total_ite (fun _ ↦ total_pure h) fun _ ↦
    total_ite (fun _ ↦ total_pure h) fun _ ↦ total_ite (fun _ ↦ ?_) fun _ ↦
    total_ite (fun _ ↦ ?_) fun _ ↦ total_pure h)
  · exact total_serveSocket hker h hfuel fun _ _ ↦ total_receiveTcp hker
  · exact total_serveSocket hker h hfuel fun _ _ ↦ total_receiveUdp hker

end Client

section

variable {K : Type} {ker : Kernel posix K} {supply : K → Nat} {t : Thread UdtcpClient} {k : K}
  {fuel : Nat}

end

/-- A client of a server on socket `7`. -/
def sampleClient : Thread UdtcpClient :=
  ⟨.other 0, { UdtcpClient.zero 0 with
    serverInfos := { UdtcpInfos.zero with tcpSocket := 7 }
    pollNfds := 2 }⟩

end Udtcp
