import Udtcp.Client.Loss
import Udtcp.Client.Polled
import Udtcp.Client.Silent
import Udtcp.Server.Delete

/-!
# The life of a client

A client from its creation to its deletion: connection attempts, passes and sends to the server in
any order. Its two connection callbacks come from `connect_client.c:265–267`,
`client_poll.c:245–361` and `delete_client.c:53–58`, and whether they alternate is a matter of the
order of the calls.
-/

namespace Udtcp

open Interaction Routine

/-- The calls on a client between its creation and its deletion. -/
inductive ClientCall where
  | connect (hostname : List UInt8) (tcpPort : UInt16) (timeout : Int)
  | pass (fuel : Nat) (timeout : Int)
  | sendTcp (data : Payload)

/-- The call runs to its end on the client, with the given trace; a send goes to the server. -/
def ClientCall.Runs (t : Thread UdtcpClient) (tr : Trace posix) (t' : Thread UdtcpClient) :
    ClientCall → Prop
  | .connect hostname tcpPort timeout =>
    ∃ result, Exec (udtcpConnectClient hostname tcpPort timeout) t tr result t'
  | .pass fuel timeout => ∃ result, Exec (udtcpClientPoll fuel timeout) t tr result t'
  | .sendTcp data => ∃ n, Exec (udtcpSendTcp t.self.serverInfos data) t tr n t'

/-- A call that was made: `errno` and the client before it, and its trace. -/
structure ClientMove where
  call : ClientCall
  errno : Errno
  before : UdtcpClient
  trace : Trace posix

/-- The traces of some calls, one behind the other. -/
def tracesOf (moves : List ClientMove) : Trace posix := moves.flatMap (·.trace)

/-- What happened in some moves and then in others. -/
@[simp] theorem tracesOf_append (moves moves' : List ClientMove) :
    tracesOf (moves ++ moves') = tracesOf moves ++ tracesOf moves' := List.flatMap_append

/-- What happened in one move. -/
@[simp] theorem tracesOf_singleton (move : ClientMove) : tracesOf [move] = move.trace :=
  List.flatMap_singleton ..

/-- Lives of a client up to its deletion: its creation, with the trace `created`, then the
installation of callbacks, and then any calls. Between them other code of the thread may leave any
value in `errno`. -/
inductive ClientLife (connect disconnect : Bool) (created : Trace posix) :
    List ClientMove → Thread UdtcpClient → Prop
  | create {hostname : List UInt8} {tcpPort udpServerPort udpClientPort : UInt16}
      {t t' : Thread UdtcpClient} (tcp udp : Bool)
      (h : Exec (udtcpCreateClient hostname tcpPort udpServerPort udpClientPort) t created 0 t') :
      ClientLife connect disconnect created [] ⟨t'.errno,
        t'.self.withCallbacks connect disconnect tcp udp⟩
  | move {moves : List ClientMove} {t t' : Thread UdtcpClient} {tr : Trace posix}
      (life : ClientLife connect disconnect created moves t) (e : Errno) (call : ClientCall)
      (h : call.Runs ⟨e, t.self⟩ tr t') :
      ClientLife connect disconnect created (moves ++ [⟨call, e, t.self, tr⟩]) t'

/-! ### Alternation -/

/-- Connections and disconnections come in turn, a connection first unless one was announced; data
does not matter. -/
def Alternates : Prop → List Callback → Prop
  | _, [] => True
  | announced, .connect .. :: cs => ¬ announced ∧ Alternates True cs
  | announced, .disconnect .. :: cs => announced ∧ Alternates False cs
  | announced, .receiveTcp .. :: cs => Alternates announced cs
  | announced, .receiveUdp .. :: cs => Alternates announced cs

private theorem alternates_data_append {announced : Prop} {data cs : List Callback}
    (hdata : ∀ cb ∈ data, cb.IsData) :
    Alternates announced (data ++ cs) ↔ Alternates announced cs := by
  induction data with
  | nil => exact Iff.rfl
  | cons cb data ih =>
    obtain ⟨hcb, hrest⟩ := List.forall_mem_cons.mp hdata
    cases cb
    case receiveTcp => exact ih hrest
    case receiveUdp => exact ih hrest
    all_goals exact hcb.elim

namespace ClientMove

/-- Whether a connection is announced behind a call, if it is known whether one `was` before it: an
attempt in which the kernel takes the record whole announces one, and a pass whose answers lose the
connection ends it. -/
def Announces (was : Prop) (move : ClientMove) : Prop :=
  match move.call with
  | .connect .. => was ∨ RecordTaken move.trace
  | .pass .. => was ∧ ¬ PassLoses move.errno move.trace
  | .sendTcp .. => was

/-- The kernel does not take the record of an attempt whole while a connection is announced, and no
answers to the calls of a pass lose one while none is. -/
def Orderly (was : Prop) (move : ClientMove) : Prop :=
  match move.call with
  | .connect .. => RecordTaken move.trace → ¬ was
  | .pass .. => PassLoses move.errno move.trace → was
  | .sendTcp .. => True

/-- The callbacks of a call, in front of others: they alternate if the call is orderly. -/
def Reports (move : ClientMove) : Prop :=
  ∀ was cs, Alternates was (callbacksOf move.trace ++ cs) ↔
    move.Orderly was ∧ Alternates (move.Announces was) cs

end ClientMove

/-- Whether a connection is announced behind some calls. -/
def AnnouncedBehind : Prop → List ClientMove → Prop
  | was, [] => was
  | was, move :: moves => AnnouncedBehind (move.Announces was) moves

/-- Each call is orderly where it stands. -/
def OrderlyCalls : Prop → List ClientMove → Prop
  | _, [] => True
  | was, move :: moves => move.Orderly was ∧ OrderlyCalls (move.Announces was) moves

private theorem alternates_tracesOf {moves : List ClientMove} (h : ∀ move ∈ moves, move.Reports)
    (was : Prop) (cs : List Callback) :
    Alternates was (callbacksOf (tracesOf moves) ++ cs) ↔
      OrderlyCalls was moves ∧ Alternates (AnnouncedBehind was moves) cs := by
  induction moves generalizing was with
  | nil => exact (iff_of_eq (true_and _)).symm
  | cons move moves ih =>
    obtain ⟨hmove, hmoves⟩ := List.forall_mem_cons.mp h
    rw [show tracesOf (move :: moves) = move.trace ++ tracesOf moves from rfl, callbacksOf_append,
      List.append_assoc, hmove, ih hmoves]
    exact and_assoc.symm

section

variable {created tr trd : Trace posix} {moves : List ClientMove} {t t' : Thread UdtcpClient}

/-- What each call on a client with both callbacks is heard to do. -/
theorem ClientCall.Runs.reports {call : ClientCall} (h : call.Runs t tr t')
    (hconnect : t.self.connectCallback = true) (hdisconnect : t.self.disconnectCallback = true) :
    ClientMove.Reports ⟨call, t.errno, t.self, tr⟩ := by
  intro was cs
  cases call with
  | connect hostname tcpPort timeout =>
    obtain ⟨result, h⟩ := h
    rcases callbacksOf_udtcpConnectClient hconnect h with ⟨htaken, r, hheard⟩ | ⟨htaken, hheard⟩
    · simp [hheard, htaken, Alternates, ClientMove.Orderly, ClientMove.Announces]
    · simp [hheard, htaken, ClientMove.Orderly, ClientMove.Announces]
  | pass fuel timeout =>
    obtain ⟨result, h⟩ := h
    have hloses := shutsDown_udtcpClientPoll_iff h
    rcases callbacksOf_udtcpClientPoll hdisconnect h with ⟨hshut, data, r, hheard, hdata⟩ |
      ⟨hshut, hdata⟩
    · rw [hheard, List.append_assoc, alternates_data_append hdata]
      simp [hloses.mp hshut, Alternates, ClientMove.Orderly, ClientMove.Announces]
    · rw [alternates_data_append hdata]
      simp [hloses.not.mp hshut, ClientMove.Orderly, ClientMove.Announces]
  | sendTcp data =>
    obtain ⟨n, h⟩ := h
    rw [callbacksOf_udtcpSendTcp h]
    exact (iff_of_eq (true_and _)).symm

/-- A call on a client leaves its callbacks alone. -/
theorem ClientCall.Runs.stable {L : UdtcpClient → Prop} (hL : UdtcpClient.Stable L)
    {call : ClientCall} (h : call.Runs t tr t') (ht : L t.self) : L t'.self := by
  cases call with
  | connect hostname tcpPort timeout =>
    obtain ⟨result, h⟩ := h
    exact Maintains.exec (I := fun t : Thread UdtcpClient ↦ L t.self)
      (fun _ ↦ hL.udtcpConnectClient _ _ _) h ht
  | pass fuel timeout =>
    obtain ⟨result, h⟩ := h
    exact Maintains.exec (I := fun t : Thread UdtcpClient ↦ L t.self)
      (fun _ ↦ hL.udtcpClientPoll _ _) h ht
  | sendTcp data =>
    obtain ⟨n, h⟩ := h
    exact Maintains.exec (I := fun t : Thread UdtcpClient ↦ L t.self)
      (fun _ ↦ maintains_udtcpSendTcp _ _) h ht

/-- The client of a life with both callbacks has them, and its calls report what they do. -/
theorem ClientLife.reports (life : ClientLife true true created moves t) :
    callbacksOf created = [] ∧ t.self.connectCallback = true ∧ t.self.disconnectCallback = true ∧
      ∀ move ∈ moves, move.Reports := by
  induction life with
  | create tcp udp h =>
    exact ⟨callbacksOf_udtcpCreateClient h, rfl, rfl, fun _ hmove ↦ absurd hmove List.not_mem_nil⟩
  | move life e call h ih =>
    obtain ⟨hcreated, hconnect, hdisconnect, hmoves⟩ := ih
    refine ⟨hcreated, ?_, ?_, List.forall_mem_append.mpr ⟨hmoves, ?_⟩⟩
    · exact h.stable (L := (·.connectCallback = true))
        ⟨fun _ _ hc ↦ hc, fun _ _ hc ↦ hc, fun _ _ hc ↦ hc, fun _ _ hc ↦ hc⟩ hconnect
    · exact h.stable (L := (·.disconnectCallback = true))
        ⟨fun _ _ hc ↦ hc, fun _ _ hc ↦ hc, fun _ _ hc ↦ hc, fun _ _ hc ↦ hc⟩ hdisconnect
    · exact List.forall_mem_singleton.mpr (h.reports hconnect hdisconnect)

/-- **Client callbacks.** From its creation to its deletion the connection callbacks of a client
alternate exactly if its calls are orderly and, at the deletion, a connection is announced unless
`tcp_socket` is `-1`. -/
theorem client_callbacks_alternate_iff {e : Errno} {u : Unit}
    (life : ClientLife true true created moves t)
    (hdelete : Exec udtcpDeleteClient ⟨e, t.self⟩ trd u t') :
    Alternates False (callbacksOf (created ++ tracesOf moves ++ trd)) ↔
      OrderlyCalls False moves ∧
        (t.self.clientInfos.tcpSocket ≠ -1 → AnnouncedBehind False moves) := by
  obtain ⟨hcreated, -, hdisconnect, hmoves⟩ := life.reports
  rw [callbacksOf_append, callbacksOf_append, hcreated, List.nil_append, alternates_tracesOf hmoves,
    callbacksOf_udtcpDeleteClient (t := ⟨e, t.self⟩) hdisconnect hdelete]
  refine and_congr_right' ?_
  split
  · next hclosed => exact iff_of_true trivial fun hopen ↦ absurd hclosed hopen
  · next hopen => simp [Alternates, hopen]

end

/-- A client that connects once before it is deleted. -/
theorem client_callbacks_alternate_once : ∃ (created trd : Trace posix) (move : ClientMove),
    Alternates False (callbacksOf (created ++ tracesOf [move] ++ trd)) := by
  obtain ⟨created, n, t, hcreate, rfl, -⟩ := may_udtcpCreateClient ⟨.other 0, .zero 0⟩
    ⟨3, by decide⟩ ⟨4, by decide⟩ ⟨5, by decide⟩
  have hcreated : ClientLife true true created [] _ := .create true true hcreate
  obtain ⟨tr, result, t₁, hconnect, rfl, key, r, htr, -⟩ := may_udtcpConnectClient
    ⟨t.errno, t.self.withCallbacks true true true true⟩ ⟨3, by decide⟩ 0 length_blankRecord
  have hlife := hcreated.move t.errno (.connect [] 0 0) ⟨.success, hconnect⟩
  obtain ⟨trd, u, t₂, hdelete, -⟩ := may_udtcpDeleteClient t₁
  have htaken : RecordTaken tr := by
    rw [htr, recordTaken_append]
    exact .inl ⟨_, List.mem_of_getElem? (i := 10) rfl, _, rfl, rfl⟩
  exact ⟨created, trd, _, (client_callbacks_alternate_iff hlife hdelete).mpr
    ⟨⟨fun _ h ↦ h, trivial⟩, fun _ ↦ .inr htaken⟩⟩

/-- A client that is deleted without a connection attempt is reported to be disconnected: the stream
socket of its creation is closed, but its number is still in `tcp_socket`. -/
theorem client_callbacks_alternate_never_connected : ∃ (created trd : Trace posix)
    (t t' : Thread UdtcpClient), ClientLife true true created [] t ∧
      Exec udtcpDeleteClient t trd () t' ∧ (∃ r, callbacksOf (created ++ trd) = [.disconnect 1 r]) ∧
      ¬ Alternates False (callbacksOf (created ++ trd)) := by
  obtain ⟨created, n, t, hcreate, rfl, -, hsock⟩ := may_udtcpCreateClient ⟨.other 0, .zero 0⟩
    ⟨3, by decide⟩ ⟨4, by decide⟩ ⟨5, by decide⟩
  have hlife : ClientLife true true created [] _ := .create true true hcreate
  obtain ⟨trd, u, t₁, hdelete, -⟩ := may_udtcpDeleteClient
    ⟨t.errno, t.self.withCallbacks true true true true⟩
  have hopen : ¬ (t.self.withCallbacks true true true true).clientInfos.tcpSocket = -1 := by
    rw [UdtcpClient.withCallbacks, hsock]
    decide
  have hheard := callbacksOf_udtcpDeleteClient rfl hdelete
  rw [if_neg hopen] at hheard
  have hall : callbacksOf (created ++ trd) =
      [.disconnect 1 (t.self.withCallbacks true true true true).serverInfos] := by
    rw [callbacksOf_append, callbacksOf_udtcpCreateClient hcreate, hheard]
    rfl
  refine ⟨created, trd, _, t₁, hlife, hdelete, ⟨_, hall⟩, ?_⟩
  rw [hall]
  exact fun h ↦ h.1

end Udtcp
