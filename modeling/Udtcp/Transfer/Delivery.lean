import Udtcp.Liveness.Passes
import Udtcp.Receive.Calls
import Udtcp.Server.Buffer
import Udtcp.Server.Rounds
import Udtcp.Table.Run
import Udtcp.Transfer.Arrivals

/-!
# A pass takes what has arrived

One pass of a server (`server_poll.c:439–539`) over several connections on which whole messages lie
ready, while nobody else asks for anything: its receptions (`server_poll.c:197–299`), the drain loop
of a client, and the scan.
-/

namespace Udtcp

open Interaction Routine

/-- Tables are kept step by step. -/
theorem TableKept.trans {m : Nat} {s s' s'' : UdtcpServer m} (h : TableKept s s')
    (h' : TableKept s' s'') : TableKept s s'' where
  addr := h'.addr.trans h.addr
  pollNfds := h'.pollNfds.trans h.pollNfds
  countId := h'.countId.trans h.countId
  connectCallback := h'.connectCallback.trans h.connectCallback
  disconnectCallback := h'.disconnectCallback.trans h.disconnectCallback
  pollFds i hi := by
    have hi' : i < s'.pollNfds := h.pollNfds.symm ▸ hi
    exact ⟨(h'.pollFds i hi').1.trans (h.pollFds i hi).1,
      (h'.pollFds i hi').2.trans (h.pollFds i hi).2⟩
  infos i hi := (h'.infos i (h.pollNfds.symm ▸ hi)).trans (h.infos i hi)

/-! ### One reception -/

section

variable {m : Nat} {fd : Fd} {t : Thread (UdtcpServer m)} {k k' : Arrivals} {slot : Nat}
  {tr : Trace posix}

/-- What a callback hands over. -/
def handedBy : Callback → List (Fd × List UInt8)
  | .receiveTcp _ infos data => [(infos.tcpSocket, data)]
  | _ => []

-- A call that takes from no socket but `fd`, and hands over what its callback says.
private def TakesFrom (fd : Fd) (e : Event posix) : Prop :=
  ∀ k k', arrivalsKernel k e.call e.reply k' →
    availableKernel fd (k.pending fd) e.call e.reply (k'.pending fd) ∧
      (∀ other, other ≠ fd → k'.pending other = k.pending other) ∧ ¬ AllocationFailed e ∧
      k'.handed = k.handed ++ (callbackOf e.call).toList.flatMap handedBy

private theorem takesFrom_recv {target : Target} {len : Nat}
    (r : Except Errno (SysCall.recv fd target len).Result) :
    TakesFrom fd ⟨.sys (.recv fd target len), r⟩ := by
  rintro k k' ⟨rest, hrecv, rfl⟩
  refine ⟨?_, fun other hother ↦ ?_, id, by simp [Arrivals.take, callbackOf]⟩
  · simpa [Arrivals.take] using hrecv
  · simp [Arrivals.take, hother]

private theorem takesFrom_same {e : Event posix} (hsame : ∀ k k',
    arrivalsKernel k e.call e.reply k' → k' = k) (hrecv : streamRecvOf e.call e.reply = none)
    (hcall : callbackOf e.call = none)
    (hmem : ∀ k k', arrivalsKernel k e.call e.reply k' → ¬ AllocationFailed e) :
    TakesFrom fd e := by
  intro k k' hk
  refine ⟨?_, fun other _ ↦ by rw [hsame k k' hk], hmem k k' hk, by simp [hsame k k' hk, hcall]⟩
  rw [availableKernel, hrecv, hsame k k' hk]

private theorem receiverCalls_takesFrom : ReceiverCalls (TakesFrom fd) fd where
  poll r := takesFrom_same (fun k k' hk ↦ hk.1) (by cases r <;> rfl) rfl fun _ _ _ ↦ id
  recvWord r := takesFrom_recv r
  recvBuffer ptr cap offset len r := takesFrom_recv r
  peek r := takesFrom_same (fun k k' hk ↦ hk.2) (by cases r <;> rfl) rfl fun _ _ _ ↦ id
  take ptr cap offset len r := takesFrom_same (fun k k' hk ↦ hk.2) (by cases r <;> rfl) rfl
    fun _ _ _ ↦ id
  newBuffer size r := by
    refine takesFrom_same (fun k k' hk ↦ hk.2) (by cases r <;> rfl) rfl ?_
    rintro k k' ⟨⟨block, rfl⟩, -⟩
    exact id
  freeBuffer ptr r := takesFrom_same (fun k k' hk ↦ hk) rfl rfl fun _ _ _ ↦ id

private theorem accepts_of_takesFrom (htr : ∀ e ∈ tr, TakesFrom fd e)
    (ha : arrivalsKernel.Accepts k tr k') :
    (availableKernel fd).Accepts (k.pending fd) tr (k'.pending fd) ∧
      (∀ other, other ≠ fd → k'.pending other = k.pending other) ∧ AllocationsSucceed tr ∧
      k'.handed = k.handed ++ (callbacksOf tr).flatMap handedBy := by
  induction tr generalizing k with
  | nil =>
    obtain rfl := ha
    exact ⟨rfl, fun _ _ ↦ rfl, allocationsSucceed_nil, (List.append_nil _).symm⟩
  | cons e tr ih =>
    obtain ⟨k₁, hk, ha⟩ := ha
    obtain ⟨h₁, hother₁, hmem, hhanded₁⟩ := htr e List.mem_cons_self k k₁ hk
    obtain ⟨h₂, hother₂, hal, hhanded₂⟩ := ih (fun e' he' ↦ htr e' (List.mem_cons_of_mem _ he')) ha
    refine ⟨⟨_, h₁, h₂⟩, fun other hne ↦ (hother₂ other hne).trans (hother₁ other hne),
      allocationsSucceed_cons.mpr ⟨hmem, hal⟩, ?_⟩
    have hcons : callbacksOf (e :: tr) = (callbackOf e.call).toList ++ callbacksOf tr := by
      rw [callbacksOf, List.filterMap_cons]
      cases callbackOf e.call <;> rfl
    rw [hhanded₂, hhanded₁, List.append_assoc, hcons, List.flatMap_append]

private theorem accepts_receiveTcp (hcb : t.self.receiveTcpCallback = true) {n : Int}
    {u : Thread ReceiveBuffer}
    (hu : Exec (receiveTcpWith fd (t.self.tcpDeliver slot) cInt) ⟨t.errno, t.self.buffer⟩ tr n u)
    (ha : arrivalsKernel.Accepts k tr k') :
    (availableKernel fd).Accepts (k.pending fd) tr (k'.pending fd) ∧
      (∀ other, other ≠ fd → k'.pending other = k.pending other) ∧ AllocationsSucceed tr ∧
      k'.handed = k.handed ++ (callbacksOf tr).flatMap handedBy := by
  refine accepts_of_takesFrom (emits_receiveTcpWith receiverCalls_takesFrom ?_ cInt _ _ _ _ hu) ha
  intro f hf data v k k' hk
  rw [UdtcpServer.tcpDeliver, if_pos hcb] at hf
  cases hf
  have hk : k' = k.hand (t.self.infos slot).tcpSocket data := hk
  subst hk
  refine ⟨rfl, fun _ _ ↦ rfl, id, rfl⟩

private theorem must_receiveTcp_next (hcb : t.self.receiveTcpCallback = true)
    (hb : t.self.buffer.Present) (hfd : (t.self.infos slot).tcpSocket = fd) {data : List UInt8}
    {rest : List (List UInt8)} (hpos : 0 < data.length) (hlen : data.length < 2 ^ 31)
    (hpending : k.pending fd = Bytes.frames (data :: rest)) :
    Must arrivalsKernel (receiveTcp slot) t k fun n t' k' ↦ 0 < n ∧
      (∃ b, b.Present ∧ t'.self = { t.self with buffer := b }) ∧
      k' = (k.take fd (Bytes.frames rest)).hand fd data := by
  intro tr n t' k' hrun ha
  have hpresent := (BufferStep.serverTcp hrun).present hb
  obtain ⟨u, hu, rfl⟩ := exec_receiveTcp.mp hrun
  rw [hfd] at hu
  obtain ⟨htaken, hother, hal, hhanded⟩ := accepts_receiveTcp hcb hu ha
  have hframable : Bytes.Framable data := by
    unfold Bytes.Framable
    omega
  rw [hpending, Bytes.frames_cons] at htaken
  obtain ⟨hn, hrest, hcalls⟩ := receiveTcpWith_available hu htaken hal hb hframable hpos
  refine ⟨?_, ⟨u.self, hpresent, rfl⟩, ?_⟩
  · rw [hn]
    exact (cInt_pos_iff hframable).mpr ⟨hpos, hlen⟩
  · rw [hcalls, UdtcpServer.tcpDeliver, if_pos hcb] at hhanded
    have hpending' : k'.pending = Function.update k.pending fd (Bytes.frames rest) := by
      funext other
      by_cases hne : other = fd
      · rw [hne, Function.update_self, hrest]
      · rw [Function.update_of_ne hne, hother other hne]
    obtain ⟨pending', handed'⟩ := k'
    simp only at hpending' hhanded
    rw [hpending', hhanded]
    simp [Arrivals.take, Arrivals.hand, handedBy, hfd]

private theorem must_receiveTcp_none (hfd : (t.self.infos slot).tcpSocket = fd)
    (hpending : k.pending fd = []) :
    Must arrivalsKernel (receiveTcp slot) t k fun n t' k' ↦ n = -1 ∧ t'.errno = .ewouldblock ∧
      t'.self = t.self ∧ k' = k := by
  intro tr n t' k' hrun ha
  obtain ⟨u, hu, rfl⟩ := exec_receiveTcp.mp hrun
  rw [hfd] at hu
  obtain ⟨size, rest, rfl, hcases⟩ := exec_receiveTcpWith hu
  obtain ⟨k₁, ⟨left, hrecv, rfl⟩, ha⟩ := ha
  rw [hpending] at hrecv
  cases size with
  | ok bs => simp [availableKernel, streamRecvOf] at hrecv
  | error e =>
    have hrecv : e = .ewouldblock ∧ left = [] := by
      simpa [availableKernel, streamRecvOf] using hrecv
    obtain ⟨rfl, rfl⟩ := hrecv
    rcases hcases with ⟨_, he, rfl, rfl, rfl⟩ | ⟨_, he, -⟩ | ⟨_, he, -⟩ | ⟨_, _, _, _, he, -⟩
    · cases he
      obtain rfl := ha
      refine ⟨rfl, rfl, rfl, ?_⟩
      rw [Arrivals.take, ← hpending, Function.update_eq_self]
    · cases he
    · cases he
    · cases he

/-! ### Draining one socket -/

private theorem must_drain_through {τ K : Type} {ker : Kernel posix K} {t : Thread τ} {k : K}
    {fuel : Nat} {body : Proc τ Int} {again : Int → Bool} {I : Int → Thread τ → K → Prop}
    (flag : ∀ k on k', ker k .pollLoop on k' → on = true ∧ k' = k) (first : Must ker body t k I)
    (round : ∀ n t k, I n t k → again n = true → Must ker body t k I) :
    Must ker (drain fuel body again) t k fun n t' k' ↦ I n t' k' ∧ again n = false := by
  unfold drain
  refine must_bind (first.mono fun n t₁ k₁ hI ↦ must_loop I hI fun n t₂ k₂ hI₂ ↦ ?_)
  refine must_request_bind fun on k₃ hk ↦ ?_
  obtain ⟨rfl, rfl⟩ := flag _ _ _ hk
  refine must_ite (fun hagain ↦ ?_) fun hdone ↦ must_pure ⟨hI₂, by simpa using hdone⟩
  exact must_bind ((round n t₂ k₃ hI₂ hagain).mono fun _ _ _ hI' ↦ must_pure hI')

/-- A message a reception takes for a success: not empty, and short enough for a C `int`. -/
def Deliverable (data : List UInt8) : Prop := 0 < data.length ∧ data.length < 2 ^ 31

-- Some messages of socket `fd` are handed over, the others are ready.
private structure Drawn (fd : Fd) (messages : List (List UInt8)) (k₀ : Arrivals) (n : Int)
    (s : UdtcpServer m) (t : Thread (UdtcpServer m)) (k : Arrivals) : Prop where
  server : ∃ b, b.Present ∧ t.self = { s with buffer := b }
  arrivals : ∃ done rest, messages = done ++ rest ∧
    k = ⟨Function.update k₀.pending fd (Bytes.frames rest), k₀.handed ++ done.map (fd, ·)⟩ ∧
    (n = -1 ∧ t.errno = .ewouldblock ∧ rest = [] ∨ 0 < n)

private theorem must_receiveTcp_drawn {messages done rest : List (List UInt8)} {s : UdtcpServer m}
    {k₀ : Arrivals} (hcb : s.receiveTcpCallback = true) (hfd : (s.infos slot).tcpSocket = fd)
    (hmessages : ∀ data ∈ messages, Deliverable data) (hsplit : messages = done ++ rest)
    (hserver : ∃ b, b.Present ∧ t.self = { s with buffer := b })
    (hk : k = ⟨Function.update k₀.pending fd (Bytes.frames rest),
      k₀.handed ++ done.map (fd, ·)⟩) :
    Must arrivalsKernel (receiveTcp slot) t k fun n t' k' ↦ Drawn fd messages k₀ n s t' k' := by
  obtain ⟨b, hb, hself⟩ := hserver
  have hpending : k.pending fd = Bytes.frames rest := by
    rw [hk]
    exact Function.update_self ..
  cases rest with
  | nil =>
    refine (must_receiveTcp_none (by rw [hself]; exact hfd) hpending).mono ?_
    rintro n t' k' ⟨rfl, herr, hself', rfl⟩
    exact ⟨⟨b, hb, hself'.trans hself⟩, done, [], hsplit, hk, .inl ⟨rfl, herr, rfl⟩⟩
  | cons data rest =>
    obtain ⟨hpos, hlen⟩ := hmessages data (by rw [hsplit]; simp)
    refine (must_receiveTcp_next (by rw [hself]; exact hcb) (by rw [hself]; exact hb)
      (by rw [hself]; exact hfd) hpos hlen hpending).mono ?_
    rintro n t' k' ⟨hn, ⟨b', hb', hself'⟩, rfl⟩
    refine ⟨⟨b', hb', by rw [hself', hself]⟩, done ++ [data], rest, ?_, ?_, .inr hn⟩
    · rw [hsplit, List.append_assoc]
      rfl
    · rw [hk, Arrivals.take, Arrivals.hand]
      simp [Function.update_idem]

private theorem must_serveClient_arrivals {fuel : Nat} {messages : List (List UInt8)}
    (hcb : t.self.receiveTcpCallback = true) (hb : t.self.buffer.Present)
    (hfd : (t.self.infos slot).tcpSocket = fd) (hmessages : ∀ data ∈ messages, Deliverable data)
    (hpending : k.pending fd = Bytes.frames messages) :
    Must arrivalsKernel (serveClient fuel slot) t k fun marked t' k' ↦ marked = false ∧
      (∃ b, b.Present ∧ t'.self = { t.self with buffer := b }) ∧
      k' = ⟨Function.update k.pending fd [], k.handed ++ messages.map (fd, ·)⟩ := by
  have hstart : k = ⟨Function.update k.pending fd (Bytes.frames messages),
      k.handed ++ ([] : List (List UInt8)).map (fd, ·)⟩ := by
    rw [← hpending, Function.update_eq_self, List.map_nil, List.append_nil]
  unfold serveClient
  refine must_bind ((must_drain_through (fun _ _ _ hk ↦ hk)
    (must_receiveTcp_drawn hcb hfd hmessages rfl ⟨_, hb, rfl⟩ hstart) ?_).mono ?_)
  · rintro n t₁ k₁ ⟨hserver, done, rest, hsplit, hk, -⟩ -
    exact must_receiveTcp_drawn hcb hfd hmessages hsplit hserver hk
  · rintro n t₁ k₁ ⟨⟨hserver, done, rest, hsplit, rfl, hlast⟩, hend⟩
    have hend : ¬ 0 < n := by simpa using hend
    obtain ⟨rfl, herr, rfl⟩ := hlast.resolve_right hend
    rw [List.append_nil] at hsplit
    subst hsplit
    refine must_ite (fun _ ↦ must_errno_bind (must_ite (absurd herr) fun _ ↦ must_pure ?_)) ?_
    · exact ⟨rfl, hserver, rfl⟩
    · exact fun hneg ↦ absurd (by decide) hneg

/-! ### The other sockets -/

-- A server with the table, the readiness and the callback of `s`.
private structure Same (s s' : UdtcpServer m) : Prop where
  table : TableKept s s'
  pollFds : s'.pollFds = s.pollFds
  callback : s'.receiveTcpCallback = s.receiveTcpCallback
  present : s'.buffer.Present

private theorem must_acceptClient_none {s : UdtcpServer m} (h : Same s t.self) :
    Must arrivalsKernel acceptClient t k fun _ t' k' ↦ Same s t'.self ∧ k' = k := by
  intro tr n t' k' hrun ha
  rcases exec_acceptClient hrun with ⟨e, rfl, -, hkept⟩ | ⟨fd, addr, rest, rfl, -⟩
  · obtain ⟨k₁, ⟨-, rfl⟩, rfl⟩ := ha
    refine ⟨⟨h.table.trans hkept.tableKept, hkept.pollFds.trans h.pollFds,
      hkept.receiveTcpCallback.trans h.callback, ?_⟩, rfl⟩
    rw [hkept.buffer]
    exact h.present
  · obtain ⟨k₁, ⟨⟨e, he⟩, -⟩, -⟩ := ha
    cases he

private theorem must_receiveUdp_none {s : UdtcpServer m} (h : Same s t.self) :
    Must arrivalsKernel receiveUdp t k fun _ t' k' ↦ Same s t'.self ∧ k' = k := by
  intro tr n t' k' hrun ha
  have hpresent := (BufferStep.serverUdp hrun).present h.present
  obtain ⟨u, hu, rfl⟩ := exec_receiveUdp.mp hrun
  refine ⟨⟨h.table.trans (tableKept_buffer _ _), h.pollFds, h.callback, hpresent⟩, ?_⟩
  obtain ⟨size, rest, rfl, hcases⟩ := exec_receiveUdpWith hu
  obtain ⟨k₁, ⟨⟨e, rfl⟩, rfl⟩, ha⟩ := ha
  rcases hcases with ⟨_, -, rfl, -⟩ | ⟨_, _, he, -⟩ | ⟨_, _, he, -⟩ | ⟨_, _, _, _, _, he, -⟩
  · exact ha
  · cases he
  · cases he
  · cases he

end

/-! ### The pass -/

section

variable {m : Nat} {w : Watch} {messages : Fd → List (List UInt8)} {k₀ k k' : Arrivals}
  {s : UdtcpServer m} {t : Thread (UdtcpServer m)} {fuel slot : Nat}

/-- What is handed over for some connections, one after the other. -/
def deliveries (messages : Fd → List (List UInt8)) (live : List Connection) :
    List (Fd × List UInt8) := live.flatMap fun c ↦ (messages c.fd).map (c.fd, ·)

-- The first `n` connections were served, the others not yet.
private structure Served (w : Watch) (messages : Fd → List (List UInt8)) (k₀ : Arrivals) (n : Nat)
    (k : Arrivals) : Prop where
  handed : k.handed = k₀.handed ++ deliveries messages (w.live.take n)
  taken : ∀ c ∈ w.live.take n, k.pending c.fd = []
  left : ∀ c ∈ w.live.drop n, k.pending c.fd = Bytes.frames (messages c.fd)

private theorem Served.next {n : Nat} {c : Connection} (h : Served w messages k₀ n k)
    (hc : w.live[n]? = some c) (hdistinct : w.live.Pairwise (·.fd ≠ ·.fd)) :
    Served w messages k₀ (n + 1) ⟨Function.update k.pending c.fd [],
      k.handed ++ (messages c.fd).map (c.fd, ·)⟩ := by
  obtain ⟨hlt, hget⟩ := List.getElem?_eq_some_iff.mp hc
  have htake : w.live.take (n + 1) = w.live.take n ++ [c] := by
    rw [List.take_add_one, hc]
    rfl
  have hdrop : w.live.drop n = c :: w.live.drop (n + 1) := by
    rw [← List.cons_getElem_drop_succ (h := hlt), hget]
  have hsplit := List.take_append_drop n w.live
  rw [hdrop] at hsplit
  rw [← hsplit, List.pairwise_append, List.pairwise_cons] at hdistinct
  obtain ⟨-, ⟨hafter, -⟩, hbefore⟩ := hdistinct
  refine ⟨?_, fun d hd ↦ ?_, fun d hd ↦ ?_⟩
  · rw [htake, deliveries, List.flatMap_append, ← deliveries, h.handed, List.append_assoc]
    simp [deliveries]
  · show Function.update k.pending c.fd [] d.fd = []
    by_cases hfd : d.fd = c.fd
    · rw [hfd, Function.update_self]
    · rw [htake, List.mem_append, List.mem_singleton] at hd
      rw [Function.update_of_ne hfd]
      exact h.taken d (hd.resolve_right fun heq ↦ hfd (by rw [heq]))
  · show Function.update k.pending c.fd [] d.fd = _
    rw [Function.update_of_ne (Ne.symm (hafter d hd))]
    exact h.left d (by rw [hdrop]; exact List.mem_cons_of_mem _ hd)

private theorem must_serveSlot_own (h : Same s t.self)
    (hown : (s.pollFds slot).fd = s.serverInfos.tcpSocket ∨
      (s.pollFds slot).fd = s.serverInfos.udpServerSocket) (hpos : 0 < s.pollNfds) :
    Must arrivalsKernel (serveSlot fuel slot) t k fun marked t' k' ↦
      marked = false ∧ Same s t'.self ∧ k' = k := by
  have hinfos : t.self.serverInfos = s.serverInfos := h.table.serverInfos hpos
  unfold serveSlot
  refine must_self_bind (must_ite (fun _ ↦ must_pure ⟨rfl, h, rfl⟩) fun _ ↦
    must_ite (fun _ ↦ must_pure ⟨rfl, h, rfl⟩) fun _ ↦ must_ite (fun _ ↦ ?_) fun hlisten ↦
    must_ite (fun _ ↦ ?_) fun hudp ↦ ?_)
  · refine must_bind ((must_drain (I := fun _ t' k' ↦ Same s t'.self ∧ k' = k)
      (fun _ _ _ _ _ hI hk ↦ ⟨hI.1, hk.2.trans hI.2⟩) (must_acceptClient_none h) ?_).mono
      fun _ _ _ h' ↦ must_pure ⟨rfl, h'⟩)
    rintro n t₁ k₁ ⟨h₁, rfl⟩ -
    exact must_acceptClient_none h₁
  · refine must_bind ((must_drain (I := fun _ t' k' ↦ Same s t'.self ∧ k' = k)
      (fun _ _ _ _ _ hI hk ↦ ⟨hI.1, hk.2.trans hI.2⟩) (must_receiveUdp_none h) ?_).mono
      fun _ _ _ h' ↦ must_pure ⟨rfl, h'⟩)
    rintro n t₁ k₁ ⟨h₁, rfl⟩ -
    exact must_receiveUdp_none h₁
  · rw [h.pollFds, hinfos] at hlisten hudp
    exact (hown.elim hlisten hudp).elim

private theorem eq_nil_of_frames {messages : List (List UInt8)} (h : Bytes.frames messages = []) :
    messages = [] := by
  cases messages with
  | nil => rfl
  | cons data rest =>
    have hlen := congrArg List.length h
    rw [Bytes.frames_cons, List.length_append, Bytes.length_frame, List.length_nil] at hlen
    omega

private theorem Served.skip {n : Nat} {c : Connection} (h : Served w messages k₀ n k)
    (hc : w.live[n]? = some c) (hdistinct : w.live.Pairwise (·.fd ≠ ·.fd))
    (hnone : messages c.fd = []) : Served w messages k₀ (n + 1) k := by
  obtain ⟨hlt, hget⟩ := List.getElem?_eq_some_iff.mp hc
  have hpending : k.pending c.fd = [] := by
    rw [h.left c (by rw [← List.cons_getElem_drop_succ (h := hlt), hget]; exact List.mem_cons_self),
      hnone, Bytes.frames_nil]
  have hnext := h.next hc hdistinct
  rw [hnone, List.map_nil, List.append_nil, ← hpending, Function.update_eq_self] at hnext
  exact hnext

private theorem must_serveSlot_client {n : Nat} {c : Connection}
    (htable : Table w s (rowsOf w.live)) (hcb : s.receiveTcpCallback = true)
    (hmessages : ∀ data ∈ messages c.fd, Deliverable data) (hc : w.live[n]? = some c)
    (hready : messages c.fd ≠ [] → (s.pollFds (2 + n)).revents &&& POLLIN ≠ 0)
    (h : Same s t.self) (hserved : Served w messages k₀ n k) :
    Must arrivalsKernel (serveSlot fuel (2 + n)) t k fun marked t' k' ↦
      marked = false ∧ Same s t'.self ∧ Served w messages k₀ (n + 1) k' := by
  obtain ⟨hlt, hget⟩ := List.getElem?_eq_some_iff.mp hc
  have hshows : Shows (s.pollFds (2 + n)) (s.infos (2 + n)) c :=
    htable.entries n ⟨c, false⟩ (by rw [rowsOf, List.getElem?_map, hc]; rfl)
  have hnfds : s.pollNfds = 2 + w.live.length := by
    rw [htable.pollNfds, rowsOf, List.length_map]
  have hown := (htable.apart c (List.mem_of_getElem? hc)).2
  have hinfos : t.self.serverInfos = s.serverInfos := h.table.serverInfos (by omega)
  have hidle (hnot : ¬ (s.pollFds (2 + n)).revents &&& POLLIN ≠ 0) :
      Served w messages k₀ (n + 1) k :=
    hserved.skip hc htable.distinct (by by_contra hsome; exact hnot (hready hsome))
  unfold serveSlot
  refine must_self_bind (must_ite (fun hzero ↦ ?_) fun _ ↦ must_ite (fun hzero ↦ ?_) fun _ ↦
    must_ite (fun hlisten ↦ ?_) fun _ ↦ must_ite (fun hudp ↦ ?_) fun _ ↦ ?_)
  · rw [h.pollFds] at hzero
    exact must_pure ⟨rfl, h, hidle (by rw [hzero]; simp)⟩
  · rw [h.pollFds] at hzero
    exact must_pure ⟨rfl, h, hidle (not_not.mpr hzero)⟩
  · rw [h.pollFds, hinfos, hshows.fd] at hlisten
    exact absurd (hlisten ▸ htable.listener.2) hown
  · rw [h.pollFds, hinfos, hshows.fd] at hudp
    exact absurd (hudp ▸ htable.receiver.2) hown
  · have hfd : (t.self.infos (2 + n)).tcpSocket = c.fd := by
      rw [h.table.infos _ (by omega)]
      exact hshows.tcpSocket
    have hpending : k.pending c.fd = Bytes.frames (messages c.fd) := by
      refine hserved.left c ?_
      rw [← List.cons_getElem_drop_succ (h := hlt), hget]
      exact List.mem_cons_self
    refine (must_serveClient_arrivals (h.callback.trans hcb) h.present hfd hmessages
      hpending).mono ?_
    rintro marked t' k' ⟨rfl, ⟨b, hb, hself⟩, rfl⟩
    refine ⟨rfl, ?_, hserved.next hc htable.distinct⟩
    rw [hself]
    exact ⟨h.table.trans (tableKept_buffer _ _), h.pollFds, h.callback, hb⟩

private theorem reventsAt_eq_zero_of_pollCount {fds : List PollFd} {timeout : Int}
    {revents : (SysCall.poll fds timeout).Result} (i : Nat)
    (h : pollCount (.ok revents : Except Errno (SysCall.poll fds timeout).Result) = 0) :
    reventsAt revents i = 0 := by
  change (((show Vector UInt16 fds.length from revents).toList.filter (· ≠ 0)).length : Int) = 0
    at h
  have hzero : ∀ e ∈ (show Vector UInt16 fds.length from revents).toList, e = 0 := by
    simpa [List.filter_eq_nil_iff] using h
  unfold reventsAt
  cases hget : (show Vector UInt16 fds.length from revents)[i]? with
  | none => rfl
  | some e =>
    refine hzero e ?_
    rw [Vector.mem_toList_iff]
    exact Vector.mem_of_getElem? hget

private theorem Served.of_none (h : Served w messages k₀ 0 k)
    (hnone : ∀ c ∈ w.live, messages c.fd = []) : Served w messages k₀ w.live.length k := by
  have hnil : deliveries messages w.live = [] := by
    rw [deliveries, List.flatMap_eq_nil_iff]
    intro c hc
    rw [hnone c hc, List.map_nil]
  refine ⟨?_, fun c hc ↦ ?_, ?_⟩
  · rw [List.take_length, hnil, h.handed]
    rfl
  · rw [List.take_length] at hc
    rw [h.left c hc, hnone c hc, Bytes.frames_nil]
  · rw [List.drop_length]
    exact fun c hc ↦ absurd hc List.not_mem_nil

private theorem must_scan_arrivals (htable : Table w s (rowsOf w.live))
    (hcb : s.receiveTcpCallback = true)
    (hmessages : ∀ c ∈ w.live, ∀ data ∈ messages c.fd, Deliverable data)
    (hready : ∀ n c, w.live[n]? = some c → messages c.fd ≠ [] →
      (s.pollFds (2 + n)).revents &&& POLLIN ≠ 0)
    (h : Same s t.self) (hserved : Served w messages k₀ 0 k) :
    Must arrivalsKernel (Routine.loop (scanSlot fuel) fuel (0, false)) t k fun organise t' k' ↦
      organise = false ∧ Same s t'.self ∧ Served w messages k₀ w.live.length k' := by
  have hnfds : s.pollNfds = 2 + w.live.length := by
    rw [htable.pollNfds, rowsOf, List.length_map]
  refine must_loop (fun i t k ↦ i.2 = false ∧ Same s t.self ∧ Served w messages k₀ (i.1 - 2) k)
    ⟨rfl, h, hserved⟩ ?_
  rintro ⟨i, organise⟩ t₁ k₁ ⟨rfl, h₁, hserved₁⟩
  unfold scanSlot
  refine must_request_bind fun on k₂ hk ↦ must_self_bind ?_
  obtain ⟨rfl, rfl⟩ := hk
  refine must_ite (fun hin ↦ ?_) fun hout ↦ ?_
  · have hi : i < s.pollNfds := by
      have hi : i < t₁.self.pollNfds := of_decide_eq_true hin
      rwa [h₁.table.pollNfds] at hi
    by_cases hclient : 2 ≤ i
    · obtain ⟨n, rfl⟩ := Nat.exists_eq_add_of_le hclient
      obtain ⟨c, hc⟩ : ∃ c, w.live[n]? = some c := ⟨_, List.getElem?_eq_getElem (by omega)⟩
      have hserved₁ : Served w messages k₀ n k₂ := by
        have heq : 2 + n - 2 = n := by omega
        rwa [heq] at hserved₁
      refine must_bind ((must_serveSlot_client htable hcb (hmessages c (List.mem_of_getElem? hc)) hc
        (hready n c hc) h₁ hserved₁).mono ?_)
      rintro marked t₂ k₃ ⟨rfl, h₂, hserved₂⟩
      refine must_pure ⟨rfl, h₂, ?_⟩
      have heq : 2 + n + 1 - 2 = n + 1 := by omega
      show Served w messages k₀ (2 + n + 1 - 2) k₃
      rw [heq]
      exact hserved₂
    · have hown : (s.pollFds i).fd = s.serverInfos.tcpSocket ∨
          (s.pollFds i).fd = s.serverInfos.udpServerSocket := by
        obtain rfl | rfl : i = 0 ∨ i = 1 := by omega
        · exact .inl htable.listener.1
        · exact .inr htable.receiver.1
      refine must_bind ((must_serveSlot_own h₁ hown (by omega)).mono ?_)
      rintro marked t₂ k₃ ⟨rfl, h₂, rfl⟩
      refine must_pure ⟨rfl, h₂, ?_⟩
      have heq : i + 1 - 2 = i - 2 := by omega
      show Served w messages k₀ (i + 1 - 2) k₃
      rw [heq]
      exact hserved₁
  · have hi : ¬ i < s.pollNfds := by
      rw [← h₁.table.pollNfds]
      simpa using hout
    have htake : w.live.take (i - 2) = w.live.take w.live.length := by
      rw [List.take_of_length_le (by omega), List.take_length]
    refine must_pure ⟨rfl, h₁, ⟨?_, ?_, ?_⟩⟩
    · rw [← htake]
      exact hserved₁.handed
    · rw [← htake]
      exact hserved₁.taken
    · rw [List.drop_length]
      exact fun c hc ↦ absurd hc List.not_mem_nil

end

section

variable {m : Nat} {admits : Watch → Watch → Prop} {t t' : Thread (UdtcpServer m)}
  {done tr : Trace posix} {w : Watch} {messages : Fd → List (List UInt8)} {k k' : Arrivals}
  {fuel : Nat} {timeout : Int} {result : UdtcpPoll}

private theorem must_pass_arrivals (run : ServerRun m admits done t w)
    (hbuffer : t.self.buffer.Backed) (hcallback : t.self.receiveTcpCallback = true)
    (hmessages : ∀ c ∈ w.live, ∀ data ∈ messages c.fd, Deliverable data)
    (hpending : ∀ c ∈ w.live, k.pending c.fd = Bytes.frames (messages c.fd)) :
    Must arrivalsKernel (udtcpServerPoll fuel timeout) t k fun _ t' k' ↦
      TableKept t.self t'.self ∧ Served w messages k w.live.length k' := by
  have htable := run.table
  have hnfds : t.self.pollNfds = 2 + w.live.length := by
    rw [htable.pollNfds, rowsOf, List.length_map]
  have hstart : Served w messages k 0 k := by
    refine ⟨?_, fun c hc ↦ absurd hc List.not_mem_nil, hpending⟩
    rw [List.take_zero]
    exact (List.append_nil _).symm
  unfold udtcpServerPoll
  refine must_self_bind (must_syscall_bind fun reply k₁ hk ↦ ?_)
  obtain ⟨rfl, revents, rfl, hreported⟩ := hk
  have hready (n : Nat) (c : Connection) (hc : w.live[n]? = some c) (hsome : messages c.fd ≠ []) :
      reventsAt revents (2 + n) &&& POLLIN ≠ 0 := by
    obtain ⟨hlt, -⟩ := List.getElem?_eq_some_iff.mp hc
    have hshows : Shows (t.self.pollFds (2 + n)) (t.self.infos (2 + n)) c :=
      htable.entries n ⟨c, false⟩ (by rw [rowsOf, List.getElem?_map, hc]; rfl)
    refine hreported (2 + n) (t.self.pollFds (2 + n)) ?_ ?_
    · rw [UdtcpServer.polled, List.getElem?_map, List.getElem?_range (by omega)]
      rfl
    · rw [hshows.fd, hpending c (List.mem_of_getElem? hc)]
      exact fun hnil ↦ hsome (eq_nil_of_frames hnil)
  have hkept := tableKept_setRevents t.self (reventsAt revents)
  have hsame : Same (t.self.setRevents (reventsAt revents))
      (t.self.setRevents (reventsAt revents)) := ⟨.refl _, rfl, rfl, hbuffer.present⟩
  refine must_update_bind (must_ite (fun hnone ↦ must_pure ⟨hkept, ?_⟩) fun _ ↦ must_bind ?_)
  · refine hstart.of_none fun c hc ↦ ?_
    by_contra hsome
    obtain ⟨n, hlt, rfl⟩ := List.getElem_of_mem hc
    refine hready n _ (List.getElem?_eq_getElem hlt) hsome ?_
    rw [reventsAt_eq_zero_of_pollCount _ hnone]
    exact UInt16.zero_and
  · refine (must_scan_arrivals (htable.of_tableKept hkept) hcallback hmessages ?_ hsame
      hstart).mono ?_
    · intro n c hc hsome
      obtain ⟨hlt, -⟩ := List.getElem?_eq_some_iff.mp hc
      have hentry : (t.self.setRevents (reventsAt revents)).pollFds (2 + n) =
          { t.self.pollFds (2 + n) with revents := reventsAt revents (2 + n) } :=
        if_pos (by omega)
      rw [hentry]
      exact hready n c hc hsome
    · rintro organise t₁ k₂ ⟨rfl, h₁, hserved⟩
      exact must_pure ⟨hkept.trans h₁.table, hserved⟩

end

end Udtcp
