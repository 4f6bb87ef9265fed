import Udtcp.Client.Create
import Udtcp.Errno.Verdict
import Udtcp.Receive.Calls
import Udtcp.Server.Accept

/-!
# Whether a pass depends on the `errno` it starts with

`udtcp_server_poll`, `server_poll.c:439–539`, and `udtcp_client_poll`, `client_poll.c:272–361`. What
a pass does is fixed by the answers to its calls exactly if every refusal comes behind a call of the
same pass that failed.
-/

namespace Udtcp

open Interaction Routine

private theorem blind_receiveUdpWith (fd : Fd) (route : Route) (success : Nat → Int) :
    Blind (receiveUdpWith fd route success) := by
  refine (blind_syscall _).bind fun r ↦ ?_
  cases r with
  | error e => exact blind_pure _
  | ok r =>
    refine .ite (blind_pure _) (.ite (blind_pure _) ((blind_growBuffer _).bind fun ok ↦ ?_))
    refine .ite (blind_self.bind fun b ↦ (blind_syscall _).bind fun r ↦ ?_) (blind_pure _)
    cases r with
    | error e => exact blind_pure _
    | ok r =>
      refine (blind_update _).bind fun _ ↦ .ite (blind_pure _) (.ite (blind_pure _)
        (.ite (blind_pure _) ?_))
      cases route r.2 with
      | none => exact blind_pure _
      | some deliver => exact blind_handover deliver _ _ _

-- Receivers do not look at `poll_loop`.
private def Flagless (ev : Event posix) : Prop := ev.call ≠ Call.pollLoop

private theorem receiverCalls_flagless (fd : Fd) : ReceiverCalls Flagless fd where
  poll _ h := by cases h
  recvWord _ h := by cases h
  recvBuffer _ _ _ _ _ h := by cases h
  peek _ h := by cases h
  take _ _ _ _ _ h := by cases h
  newBuffer _ _ h := by cases h
  freeBuffer _ _ h := by cases h

private theorem judged_receiveTcpWith {role : Role} (fd : Fd)
    (deliver : Option (List UInt8 → Callback)) :
    Judged role (receiveTcpWith fd deliver role.success) where
  blind := blind_receiveTcpWith _ _ _
  flagless := emits_receiveTcpWith (receiverCalls_flagless _) (fun f hf data u h ↦ by cases h) _
  outcome _ _ _ _ := outcome_receiveTcpWith

private theorem judged_receiveUdpWith (fd : Fd) (deliver : Option (List UInt8 → Callback)) :
    Judged .client (receiveUdpWith fd (fun _ ↦ some deliver) fun _ ↦ 1) where
  blind := blind_receiveUdpWith _ _ _
  flagless := emits_receiveUdpWith (receiverCalls_flagless _).toDatagramCalls
    (fun _ f hf data u h ↦ by cases h) _
  outcome _ _ _ _ := outcome_receiveUdpWith

/-! ### The poll of a pass -/

private theorem waits_failed {τ : Type} {t t' : Thread τ} {tr : Trace posix} {result : UdtcpPoll}
    (h : Exec (do if (← errno) = .eintr then return .signal else return .error) t tr result t') :
    tr = [] ∧ t' = t := by
  rw [exec_errno_bind, exec_ite] at h
  split at h
  · exact ⟨(exec_pure.mp h).1, (exec_pure.mp h).2.2⟩
  · exact ⟨(exec_pure.mp h).1, (exec_pure.mp h).2.2⟩

private theorem weighed_of_poll {τ α : Type} {role : Role} {polled : τ → List PollFd}
    {timeout : Int} {t t' : Thread τ} {tr : Trace posix} {a : α}
    {next : ∀ s, Except Errno (SysCall.poll (polled s) timeout).Result → Proc τ α}
    (herror : ∀ s e ⦃t tr a t'⦄, Exec (next s (.error e)) t tr a t' → tr = [] ∧ t' = t)
    (hok : ∀ s revents, Weighed role (next s (.ok revents)))
    (h : Exec (self >>= fun s ↦ syscall (.poll (polled s) timeout) >>= next s) t tr a t') :
    (Explained role tr ∧ ∀ e, Exec (self >>= fun s ↦ syscall (.poll (polled s) timeout) >>= next s)
      ⟨e, t.self⟩ tr a ⟨errnoAfter e tr, t'.self⟩) ∨ Tells role t.errno tr := by
  obtain ⟨reply, rest, rfl, hrest⟩ := exec_syscall_bind.mp (exec_self_bind.mp h)
  have hpre := explained_poll role reply
  cases reply with
  | error e =>
    obtain ⟨rfl, rfl⟩ := herror _ e hrest
    exact .inl ⟨hpre, fun e' ↦ exec_self_bind.mpr (exec_syscall_bind.mpr ⟨_, [], rfl, hrest⟩)⟩
  | ok revents =>
    have hstart : Exec (next t.self (.ok revents))
        ⟨errnoAfter t.errno [⟨.sys (.poll (polled t.self) timeout), .ok revents⟩], t.self⟩
        rest a t' := hrest
    refine (hok t.self revents hpre hstart).imp_left fun ⟨hex, hany⟩ ↦ ⟨hex, fun e' ↦ ?_⟩
    exact exec_self_bind.mpr (exec_syscall_bind.mpr ⟨_, rest, rfl, hany e'⟩)

/-! ### Servers -/

section

variable {m : Nat}

private theorem judged_receiveTcp (slot : Nat) :
    Judged .server (receiveTcp slot : ServerProc m Int) :=
  judged_onPart fun _ ↦ judged_receiveTcpWith _ _

private theorem steady_receiveUdp : Steady .server (receiveUdp : ServerProc m Int) where
  blind := blind_self.bind fun s ↦ (blind_receiveUdpWith _ _ _).onPart
  clean t tr n t' h := by
    obtain ⟨u, hu, -⟩ := exec_receiveUdp.mp h
    exact clean_receiveUdpWith hu

private theorem steady_dropClient (slot : Nat) :
    Steady .server (dropClient slot : ServerProc m Unit) := by
  refine Steady.bind ?_ fun _ ↦ steady_update _
  refine steady_self.bind fun s ↦ (steady_syscall fun _ ↦ ⟨id, id⟩).bind fun _ ↦ ?_
  refine steady_self.bind fun s ↦ (steady_syscall fun _ ↦ ⟨id, id⟩).bind fun _ ↦ ?_
  refine steady_self.bind fun s ↦ .ite (steady_issue (fun _ ↦ rfl) fun _ ↦ ⟨id, id⟩) ?_
  exact steady_pure _

private theorem steady_copyText (offset : Nat) (text : List UInt8) :
    Steady .server (copyText offset text) :=
  .ite (steady_update _) ⟨blind_crash, fun _ _ _ _ h ↦ (exec_crash h).elim⟩

private theorem steady_registerClient (slot : Nat) :
    Steady .server (registerClient slot : ServerProc m Unit) := by
  refine steady_self.bind fun s ↦ (steady_update _).bind fun _ ↦ ?_
  refine Steady.bind (.onPart ?_) fun _ ↦ (steady_update _).bind fun _ ↦
    (steady_update _).bind fun _ ↦ steady_self.bind fun s ↦ ?_
  · refine steady_self.bind fun r ↦
      (steady_request (fun _ ↦ rfl) fun _ ↦ ⟨id, id⟩).bind fun name ↦ ?_
    cases name with
    | none => exact steady_self.bind fun r ↦ (steady_copyText _ _).bind fun _ ↦ steady_copyText _ _
    | some text =>
      exact (steady_copyText _ _).bind fun _ ↦ steady_self.bind fun r ↦ steady_copyText _ _
  · refine .ite ((steady_issue (fun _ ↦ rfl) fun _ ↦ ⟨id, id⟩).bind fun _ ↦ ?_) ?_
    · exact steady_update _
    · exact steady_update _

private theorem blind_initializeConnection (slot : Nat) :
    Blind (initializeConnection slot : ServerProc m Int) := by
  refine blind_self.bind fun s ↦ (blind_syscall _).bind fun sent ↦ .ite (blind_pure _) ?_
  refine (blind_pollIn _).bind fun n ↦ .ite (blind_pure _) ?_
  refine blind_self.bind fun s ↦ (blind_syscall _).bind fun got ↦ ?_
  cases got with
  | error e => exact blind_pure _
  | ok bs =>
    refine Blind.bind ?_ fun _ ↦ .ite (blind_pure _) ?_
    · refine (blind_update _).bind fun _ ↦ ?_
      cases bs.val[UdtcpInfos.sizeof]? with
      | none => exact blind_pure _
      | some b =>
        refine .ite (blind_update _) (blind_self.bind fun s ↦ ?_)
        exact (blind_request fun _ ↦ rfl).bind fun value ↦ blind_issue fun _ ↦ rfl
    · exact blind_self.bind fun s ↦ (blind_update _).bind fun _ ↦ blind_pure _

private theorem steady_initializeConnection (slot : Nat) :
    Steady .server (initializeConnection slot : ServerProc m Int) where
  blind := blind_initializeConnection slot
  clean t tr n t' h := by
    let Calm (ev : Event posix) : Prop :=
      ¬ refuses .server ev.call ev.reply ∧ ¬ fills ev.call ev.reply
    obtain ⟨sent, rest, rfl, hrest⟩ := exec_initializeConnection h
    have hcalm : ∀ ev ∈ rest, Calm ev := by
      rcases hrest with ⟨rfl, -⟩ | ⟨polled, rest, -, rfl, hrest⟩
      · nofun
      refine List.forall_mem_cons.mpr ⟨⟨id, id⟩, ?_⟩
      rcases hrest with ⟨rfl, -⟩ | ⟨got, rest, -, rfl, hrest⟩
      · nofun
      refine List.forall_mem_cons.mpr ⟨⟨id, id⟩, ?_⟩
      rcases hrest with ⟨e, -, rfl, -⟩ | ⟨bs, t₁, -, -, -, -, hwrite⟩ | ⟨bs, -, -, rfl, -⟩
      · nofun
      · intro ev hev
        obtain ⟨c, r⟩ := ev
        rcases (exec_writeRecord hwrite).2.2.1 _ hev with ⟨addr, rfl⟩ | ⟨addr, value, rfl⟩
        · exact ⟨id, id⟩
        · exact ⟨id, id⟩
      · nofun
    refine clean_of_forall_mem (List.forall_mem_cons.mpr ⟨⟨id, id⟩, hcalm⟩) ?_
    rintro ev ⟨⟩
    exact id

private theorem steady_acceptClient : Steady .server (acceptClient : ServerProc m Int) := by
  refine steady_self.bind fun s ↦ .ite ?_ ((steady_syscall fun _ ↦ ⟨id, id⟩).bind fun r ↦ ?_)
  · refine steady_self.bind fun s ↦ (steady_syscall fun _ ↦ ⟨id, id⟩).bind fun r ↦ ?_
    cases r with
    | error e => exact steady_pure _
    | ok a =>
      refine (steady_syscall fun _ ↦ ⟨id, id⟩).bind fun _ ↦ ?_
      exact (steady_syscall fun _ ↦ ⟨id, id⟩).bind fun _ ↦ steady_pure _
  cases r with
  | error e => exact (steady_update _).bind fun _ ↦ steady_pure _
  | ok a =>
    have hclose : Steady .server (do
        let _ ← syscall (.close ((← self).infos s.pollNfds).tcpSocket)
        return -1 : ServerProc m Int) :=
      steady_self.bind fun s ↦ (steady_syscall fun _ ↦ ⟨id, id⟩).bind fun _ ↦ steady_pure _
    refine (steady_update _).bind fun _ ↦ steady_self.bind fun s ↦ Steady.bind ?_ fun o ↦
      .ite hclose ((steady_initializeConnection _).bind fun k ↦ .ite hclose ?_)
    · refine (steady_syscall fun _ ↦ ⟨id, id⟩).bind fun r ↦ ?_
      cases r with
      | error e => exact steady_pure _
      | ok flags =>
        refine (steady_syscall fun _ ↦ ⟨id, id⟩).bind fun r ↦ ?_
        cases r with
        | error e => exact steady_pure _
        | ok u => exact steady_pure _
    · exact (steady_registerClient _).bind fun _ ↦ steady_pure _

private theorem weighed_serveSlot (fuel slot : Nat) :
    Weighed .server (serveSlot fuel slot : ServerProc m Bool) := by
  refine steady_self.bind_weighed fun s ↦ .ite (steady_pure _).weighed (.ite (steady_pure _).weighed
    (.ite ?_ (.ite ?_ ?_)))
  · exact ((steady_acceptClient.drain fuel _).bind fun _ ↦ steady_pure _).weighed
  · exact ((steady_receiveUdp.drain fuel _).bind fun _ ↦ steady_pure _).weighed
  · refine (judged_receiveTcp slot).weighed false (dropClient slot >>= fun _ ↦ pure true)
      ((steady_dropClient slot).bind fun _ ↦ steady_pure _) (fun t tr b t' h ↦ ?_) fuel
    obtain ⟨tr₁, _, t₁, tr₂, rfl, hdrop, -⟩ := exec_bind.mp h
    obtain ⟨r, r', rest, rfl, -⟩ := exec_dropClient hdrop
    exact ⟨_, r, _, rfl⟩

private theorem weighed_scanSlot (fuel : Nat) (i : Nat × Bool) :
    Weighed .server (scanSlot fuel i : ServerProc m ((Nat × Bool) ⊕ Bool)) := by
  refine steady_pollLoop.bind_weighed fun on ↦ steady_self.bind_weighed fun s ↦ .ite ?_ ?_
  · refine (weighed_serveSlot fuel i.1).bind (fun marked ↦ (steady_pure _).weighed) ?_
    intro marked t tr o t' h
    obtain ⟨rfl, -, -⟩ := exec_pure.mp h
    exact not_drops_nil
  · exact (steady_pure _).weighed

/-- A pass of a server repeats from every `errno`, or tells which it started with. -/
theorem weighed_udtcpServerPoll {fuel : Nat} {timeout : Int} {t t' : Thread (UdtcpServer m)}
    {tr : Trace posix} {result : UdtcpPoll}
    (h : Exec (udtcpServerPoll fuel timeout) t tr result t') :
    (Explained .server tr ∧ ∀ e, Exec (udtcpServerPoll fuel timeout) ⟨e, t.self⟩ tr result
      ⟨errnoAfter e tr, t'.self⟩) ∨ Tells .server t.errno tr := by
  refine weighed_of_poll (fun s e _ _ _ _ h ↦ waits_failed h) (fun s revents ↦ ?_) h
  refine (steady_update _).bind_weighed fun _ ↦ .ite (steady_pure _).weighed (Weighed.bind ?_ ?_ ?_)
  · refine weighed_loop (weighed_scanSlot fuel) (fun i t tr o t' h ↦ ?_) fuel _
    obtain ⟨on, rest, rfl, -⟩ := exec_scanSlot h
    exact ⟨on, rest, rfl⟩
  · exact fun organise ↦ (Steady.ite ((steady_update _).bind fun _ ↦ steady_pure _)
      (steady_pure _)).weighed
  · intro organise t tr result t' h
    cases organise with
    | false =>
      obtain ⟨rfl, -, -⟩ := exec_pure.mp h
      exact not_drops_nil
    | true =>
      have hret := exec_update_bind.mp h
      obtain ⟨rfl, -, -⟩ := exec_pure.mp hret
      exact not_drops_nil

end

/-! ### Clients -/

namespace Client

/-- The pass looks at what a reception from the connection comes to. -/
theorem judged_receiveTcp : Judged .client receiveTcp :=
  judged_onPart fun _ ↦ judged_receiveTcpWith _ _

/-- So it does at what a reception of a datagram comes to. -/
theorem judged_receiveUdp : Judged .client receiveUdp :=
  judged_onPart fun _ ↦ judged_receiveUdpWith _ _

/-- Disconnecting neither refuses anything nor looks at `errno`. -/
theorem steady_disconnect : Steady .client disconnect := by
  refine steady_self.bind fun c ↦ (steady_syscall fun _ ↦ ⟨id, id⟩).bind fun _ ↦ ?_
  refine steady_self.bind fun c ↦ (steady_syscall fun _ ↦ ⟨id, id⟩).bind fun _ ↦ ?_
  refine (steady_update _).bind fun _ ↦ steady_self.bind fun c ↦ .ite ?_ (steady_pure _)
  exact steady_issue (fun _ ↦ rfl) fun _ ↦ ⟨id, id⟩

private theorem weighed_serveSocket {receive : ClientProc Int} (h : Judged .client receive)
    (fuel : Nat) : Weighed .client (serveSocket fuel receive) := by
  refine h.weighed none (disconnect >>= fun _ ↦ pure (some UdtcpPoll.error))
    (steady_disconnect.bind fun _ ↦ steady_pure _) (fun t tr o t' h ↦ ?_) fuel
  obtain ⟨tr₁, _, t₁, tr₂, rfl, hdrop, -⟩ := exec_bind.mp h
  obtain ⟨r, rest, rfl, -⟩ := exec_syscall_bind.mp (exec_self_bind.mp hdrop)
  exact ⟨_, r, _, rfl⟩

private theorem weighed_serveEntry (fuel i : Nat) : Weighed .client (serveEntry fuel i) :=
  steady_self.bind_weighed fun _ ↦ .ite (steady_pure _).weighed (.ite (steady_pure _).weighed
    (.ite (weighed_serveSocket judged_receiveTcp fuel)
      (.ite (weighed_serveSocket judged_receiveUdp fuel) (steady_pure _).weighed)))

private theorem weighed_scanEntry (fuel i : Nat) : Weighed .client (scanEntry fuel i) := by
  refine steady_pollLoop.bind_weighed fun on ↦ steady_self.bind_weighed fun c ↦ .ite ?_ ?_
  · refine (weighed_serveEntry fuel i).bind (fun o ↦ ?_) fun o t tr a t' h ↦ ?_
    · cases o with
      | none => exact (steady_pure _).weighed
      | some result => exact (steady_pure _).weighed
    · cases o with
      | none =>
        obtain ⟨rfl, -, -⟩ := exec_pure.mp h
        exact not_drops_nil
      | some result =>
        obtain ⟨rfl, -, -⟩ := exec_pure.mp h
        exact not_drops_nil
  · exact (steady_pure _).weighed

end Client

section

variable {fuel : Nat} {timeout : Int} {t t' : Thread UdtcpClient} {tr : Trace posix}
  {result : UdtcpPoll}

/-- A pass of a client repeats from every `errno`, or tells which it started with. -/
theorem weighed_udtcpClientPoll (h : Exec (udtcpClientPoll fuel timeout) t tr result t') :
    (Explained .client tr ∧ ∀ e, Exec (udtcpClientPoll fuel timeout) ⟨e, t.self⟩ tr result
      ⟨errnoAfter e tr, t'.self⟩) ∨ Tells .client t.errno tr := by
  refine weighed_of_poll (fun s e _ _ _ _ h ↦ waits_failed h) (fun s revents ↦ ?_) h
  refine (steady_update _).bind_weighed fun _ ↦ .ite (steady_pure _).weighed ?_
  refine weighed_loop (Client.weighed_scanEntry fuel) (fun i t tr o t' h ↦ ?_) fuel _
  obtain ⟨on, rest, rfl, -⟩ := exec_request_bind.mp h
  exact ⟨on, rest, rfl⟩

end

/-! ### Both passes -/

private theorem repeats_iff_explained {τ : Type} {p : Proc τ UdtcpPoll} {role : Role}
    {t t' : Thread τ} {tr : Trace posix} {result : UdtcpPoll}
    (hweighed : ∀ ⦃t t' result⦄, Exec p t tr result t' →
      (Explained role tr ∧ ∀ e, Exec p ⟨e, t.self⟩ tr result ⟨errnoAfter e tr, t'.self⟩) ∨
        Tells role t.errno tr) (h : Exec p t tr result t') :
    (∀ e, ∃ e', Exec p ⟨e, t.self⟩ tr result ⟨e', t'.self⟩) ↔ Explained role tr := by
  constructor
  · intro hany
    rcases hweighed h with ⟨hex, -⟩ | htells
    · exact hex
    -- a run from a value of the other kind tells something else
    obtain ⟨e, he⟩ : ∃ e : Errno, ¬ (t.errno ≠ .ewouldblock ↔ e ≠ .ewouldblock) := by
      by_cases hold : t.errno = .ewouldblock
      · exact ⟨.eintr, fun hiff ↦ hiff.mpr nofun hold⟩
      · exact ⟨.ewouldblock, fun hiff ↦ hiff.mp hold rfl⟩
    obtain ⟨e', hother⟩ := hany e
    rcases hweighed hother with ⟨hex, -⟩ | htells'
    · exact hex
    · exact (he (htells.congr htells')).elim
  · intro hex e
    rcases hweighed h with ⟨-, hany⟩ | htells
    · exact ⟨_, hany e⟩
    · exact (htells.not_explained hex).elim

/-- **What a pass does depends on its calls alone** exactly if every refusal comes behind a call of
the pass that failed: then the same calls and callbacks, the same result and the same end follow
from every value of `errno`. -/
theorem pass_ignores_errno_iff {m : Nat} {fuel : Nat} {timeout : Int} :
    (∀ (t t' : Thread (UdtcpServer m)) tr result, Exec (udtcpServerPoll fuel timeout) t tr
    result t' →
      ((∀ e, ∃ e', Exec (udtcpServerPoll fuel timeout) ⟨e, t.self⟩ tr result ⟨e', t'.self⟩) ↔
        Explained .server tr)) ∧
    ∀ (t t' : Thread UdtcpClient) tr result, Exec (udtcpClientPoll fuel timeout) t tr result t' →
      ((∀ e, ∃ e', Exec (udtcpClientPoll fuel timeout) ⟨e, t.self⟩ tr result ⟨e', t'.self⟩) ↔
        Explained .client tr) :=
  ⟨fun _ _ _ _ h ↦ repeats_iff_explained (fun _ _ _ ↦ weighed_udtcpServerPoll) h,
    fun _ _ _ _ h ↦ repeats_iff_explained (fun _ _ _ ↦ weighed_udtcpClientPoll) h⟩

/-! ### Three bytes of a size -/

/-- A connected client that waits on its TCP socket, descriptor 5. -/
def waitingClient : UdtcpClient :=
  { UdtcpClient.zero 0 with
    clientInfos := { UdtcpInfos.zero with tcpSocket := 5 }
    serverInfos := { UdtcpInfos.zero with tcpSocket := 5 }
    pollFds := fun _ ↦ ⟨5, POLLIN, 0⟩
    pollNfds := 1 }

/-- A pass up to the drained socket, where the size of a message is asked for once. -/
def askForSize (size : Except Errno {bs : List UInt8 // bs.length ≤ 4}) : Trace posix :=
  [⟨.sys (.poll [⟨5, POLLIN, 0⟩] 0), .ok (Vector.replicate 1 POLLIN)⟩, ⟨.pollLoop, true⟩,
   ⟨.sys (.recv 5 .word 4), size⟩, ⟨.pollLoop, true⟩]

/-- The same client, which waits on its datagram socket, descriptor 6, as well. -/
def waitingTwice : UdtcpClient :=
  { waitingClient with
    clientInfos := { UdtcpInfos.zero with tcpSocket := 5, udpServerSocket := 6 }
    pollFds := fun i ↦ if i = 0 then ⟨5, POLLIN, 0⟩ else ⟨6, POLLIN, 0⟩
    pollNfds := 2 }

/-- A pass that finds nothing on the connection, and then a datagram of one byte. -/
def cutDatagram : Trace posix :=
  [⟨.sys (.poll [⟨5, POLLIN, 0⟩, ⟨6, POLLIN, 0⟩] 0), .ok (Vector.replicate 2 POLLIN)⟩,
   ⟨.pollLoop, true⟩, ⟨.sys (.recv 5 .word 4), .error .ewouldblock⟩, ⟨.pollLoop, true⟩,
   ⟨.pollLoop, true⟩, ⟨.sys (.recvfrom 6 .word 4 true), .ok (⟨[7], by decide⟩, .zero)⟩,
   ⟨.pollLoop, true⟩, ⟨.pollLoop, true⟩]

/-- The datagram is refused behind a call that failed, so the pass is the same from every
`errno`. -/
theorem pass_ignores_errno_cut_datagram : ∃ t' : Thread UdtcpClient,
    Exec (udtcpClientPoll 3 0) ⟨.other 0, waitingTwice⟩ cutDatagram .success t' ∧
      Refused .client (cutDatagram.take 6) ∧
      ∀ e, ∃ e', Exec (udtcpClientPoll 3 0) ⟨e, waitingTwice⟩ cutDatagram .success
        ⟨e', t'.self⟩ := by
  have hrun : ∃ t', Exec (udtcpClientPoll 3 0) ⟨.other 0, waitingTwice⟩ cutDatagram .success t' :=
    ⟨_, _, _, rfl, _, _, rfl, _, _, rfl, _, _, rfl, _, _, rfl, _, _, rfl, _, _, rfl, _, _, rfl,
      rfl, rfl⟩
  obtain ⟨t', h⟩ := hrun
  have hrefused : Refused .client (cutDatagram.take 6) :=
    .inl ⟨cutDatagram.take 5, _, rfl, ⟨by decide, by decide⟩⟩
  refine ⟨t', h, hrefused, ((pass_ignores_errno_iff (m := 1)).2 _ _ _ _ h).mpr ?_⟩
  have hclean : Clean .client ((cutDatagram.drop 1).take 2) := by
    refine clean_of_forall_mem ?_ (by rintro ev ⟨⟩; exact id)
    simp only [cutDatagram, List.drop_succ_cons, List.drop_zero, List.take_succ_cons,
      List.take_zero, List.forall_mem_cons]
    exact ⟨⟨id, id⟩, ⟨id, id⟩, nofun⟩
  have hfirst : Explained .client (cutDatagram.take 1) := explained_poll .client _
  have hbefore : Explained .client (cutDatagram.take 1 ++ (cutDatagram.drop 1).take 2) :=
    hfirst.append hclean
  exact explained_of_failed hbefore ⟨⟨.sys (.recv 5 .word 4), .error .ewouldblock⟩,
    .tail _ (.tail _ (.head _)), rfl⟩

/-- **The defect.** Of a size only the first byte comes in. Entered with `EWOULDBLOCK` in `errno`,
the pass keeps the connection; entered with anything else and given the same answers, it drops it
and fails. -/
theorem pass_depends_on_errno : ∃ (tr tr' : Trace posix) (t t' : Thread UdtcpClient),
    Exec (udtcpClientPoll 2 0) ⟨.ewouldblock, waitingClient⟩ tr .success t ∧
    Exec (udtcpClientPoll 2 0) ⟨.other 0, waitingClient⟩ tr' .error t' ∧
    t.self.clientInfos.tcpSocket = 5 ∧ t'.self.clientInfos.tcpSocket = -1 ∧
    askForSize (.ok ⟨[7], by decide⟩) <+: tr ∧ askForSize (.ok ⟨[7], by decide⟩) <+: tr' ∧
    ¬ ∀ e, ∃ e', Exec (udtcpClientPoll 2 0) ⟨e, waitingClient⟩ tr .success ⟨e', t.self⟩ := by
  have hkeep : ∃ t, t.self.clientInfos.tcpSocket = 5 ∧
      Exec (udtcpClientPoll 2 0) ⟨.ewouldblock, waitingClient⟩
        (askForSize (.ok ⟨[7], by decide⟩) ++ [⟨.pollLoop, true⟩]) .success t :=
    ⟨_, rfl, _, _, rfl, _, _, rfl, _, _, rfl, _, _, rfl, _, _, rfl, rfl, rfl⟩
  have hdrop : ∃ t, t.self.clientInfos.tcpSocket = -1 ∧
      Exec (udtcpClientPoll 2 0) ⟨.other 0, waitingClient⟩ (askForSize (.ok ⟨[7], by decide⟩) ++
        [⟨.sys (.shutdown 5), .ok ()⟩, ⟨.sys (.close 5), .ok ()⟩]) .error t :=
    ⟨_, rfl, _, _, rfl, _, _, rfl, _, _, rfl, _, _, rfl, _, _, rfl, _, _, rfl, rfl, rfl⟩
  obtain ⟨t, hopen, hkeep⟩ := hkeep
  obtain ⟨t', hclosed, hdrop⟩ := hdrop
  refine ⟨_, _, t, t', hkeep, hdrop, hopen, hclosed, List.prefix_append _ _,
    List.prefix_append _ _, fun hany ↦ ?_⟩
  have hex := (repeats_iff_explained (fun _ _ _ ↦ weighed_udtcpClientPoll) hkeep).mp hany
  have hrefused : Refused .client ((askForSize (.ok ⟨[7], by decide⟩)).take 3) :=
    .inl ⟨(askForSize (.ok ⟨[7], by decide⟩)).take 2, _, rfl, ⟨by decide, by decide⟩⟩
  obtain ⟨ev, hev, hfail⟩ := hex _ ((List.take_prefix _ _).trans (List.prefix_append _ _)) hrefused
  have hnone : ∀ ev ∈ (askForSize (.ok ⟨[7], by decide⟩)).take 3, ¬ Failed ev := by
    simp only [askForSize, List.take_succ_cons, List.take_zero, List.forall_mem_cons]
    exact ⟨nofun, Bool.false_ne_true, nofun, nofun⟩
  exact hnone ev hev hfail

end Udtcp
