import Udtcp.Client.Created
import Udtcp.Client.Possible
import Udtcp.Client.Stable

/-!
# The descriptor a client polls

`poll_fds[0].fd` is written once, by `udtcp_create_client`, while every `udtcp_connect_client`
opens a new socket. `udtcp_client_poll` sees what comes in only if the two numbers agree.
-/

namespace Udtcp

open Interaction Routine

/-- No call on a client changes the descriptor or the number of the entries. -/
theorem UdtcpClient.stable_watches (fd : Fd) : UdtcpClient.Stable (·.Watches fd) where
  tcpSocket _ _ hc := ⟨hc.fd, hc.events, hc.pollNfds⟩
  serverInfos _ _ hc := ⟨hc.fd, hc.events, hc.pollNfds⟩
  buffer _ _ hc := ⟨hc.fd, hc.events, hc.pollNfds⟩
  revents c revents hc := by
    have hzero : (c.setRevents revents).pollFds 0 = { c.pollFds 0 with revents := revents 0 } :=
      if_pos (by rw [hc.pollNfds]; decide)
    exact ⟨by rw [hzero]; exact hc.fd, by rw [hzero]; exact hc.events, hc.pollNfds⟩

/-! ### Runs of a client -/

/-- Set the callbacks of a client. -/
def UdtcpClient.withCallbacks (c : UdtcpClient) (connect disconnect tcp udp : Bool) :
    UdtcpClient :=
  { c with
    connectCallback := connect
    disconnectCallback := disconnect
    receiveTcpCallback := tcp
    receiveUdpCallback := udp }

/-- Runs of a client: its creation, with the trace `created`, and then any connection attempts and
passes, with the trace of all of it. Between them the user may set the callbacks, and other code
of the thread may leave any value in `errno`. -/
inductive ClientRun (created : Trace posix) : Trace posix → Thread UdtcpClient → Prop
  | create {hostname : List UInt8} {tcpPort udpServerPort udpClientPort : UInt16}
      {t t' : Thread UdtcpClient}
      (h : Exec (udtcpCreateClient hostname tcpPort udpServerPort udpClientPort) t created 0 t') :
      ClientRun created created t'
  | connect {hostname : List UInt8} {tcpPort : UInt16} {timeout : Int} {result : UdtcpConnect}
      {t t' : Thread UdtcpClient} {done tr : Trace posix} (run : ClientRun created done t)
      (h : Exec (udtcpConnectClient hostname tcpPort timeout) t tr result t') :
      ClientRun created (done ++ tr) t'
  | pass {fuel : Nat} {timeout : Int} {result : UdtcpPoll} {t t' : Thread UdtcpClient}
      {done tr : Trace posix} (run : ClientRun created done t)
      (h : Exec (udtcpClientPoll fuel timeout) t tr result t') : ClientRun created (done ++ tr) t'
  | configure {t : Thread UdtcpClient} {done : Trace posix} (run : ClientRun created done t)
      (connect disconnect tcp udp : Bool) (e : Errno) :
      ClientRun created done ⟨e, t.self.withCallbacks connect disconnect tcp udp⟩

/-- The stream sockets opened in a trace, oldest first. -/
def tcpSockets (tr : Trace posix) : List Fd := (dials tr).filterMap fun
  | .opened fd => some fd
  | _ => none

/-- The sockets connected in a trace, oldest first. -/
def connectedSockets (tr : Trace posix) : List Fd := (dials tr).filterMap fun
  | .connect fd => some fd
  | _ => none

/-- The names found for addresses in a trace, oldest first. -/
def foundNames (tr : Trace posix) : List (List UInt8) := (dials tr).filterMap fun
  | .named text => some text
  | _ => none

/-- The client polls for input, in its first entry, the socket that was connected in `tr`. -/
structure PollsConnected (c : UdtcpClient) (tr : Trace posix) : Prop where
  entry : (c.pollFds 0).fd = c.clientInfos.tcpSocket
  record : c.serverInfos.tcpSocket = c.clientInfos.tcpSocket
  connected : connectedSockets tr = [c.clientInfos.tcpSocket]
  polled : c.polled.head? = some (c.pollFds 0) ∧ (c.pollFds 0).events = POLLIN

section

variable {created done tr : Trace posix} {t t' : Thread UdtcpClient}

private theorem dials_of_must {α : Type} {m : ClientProc α} {a : α}
    {Q : α → Thread UdtcpClient → List Dial → Prop} (hm : Must dialRecorder m t [] Q)
    (h : Exec m t tr a t') : Q a t' (dials tr) :=
  hm tr a t' _ h (accepts_recorder.mpr rfl)

/-- In the whole run the client watches the number of the socket made at its creation. -/
theorem ClientRun.watches (run : ClientRun created done t) :
    ∃ fd, dials created = [.opened fd] ∧ t.self.Watches fd := by
  induction run with
  | create h => exact dials_of_must must_udtcpCreateClient h rfl
  | connect _ h ih =>
    obtain ⟨fd, hfd, hw⟩ := ih
    exact ⟨fd, hfd, (dials_of_must (must_udtcpConnectClient hw) h).1⟩
  | pass _ h ih =>
    obtain ⟨fd, hfd, hw⟩ := ih
    exact ⟨fd, hfd, dials_of_must ((UdtcpClient.stable_watches fd).udtcpClientPoll _ _ _ [] hw) h⟩
  | configure _ _ _ _ _ _ ih =>
    obtain ⟨fd, hfd, hw⟩ := ih
    exact ⟨fd, hfd, hw.fd, hw.events, hw.pollNfds⟩

/-- **The polled socket.** After a successful connection attempt, at whatever point of a run and
whatever descriptors the kernel hands out, the client polls its connection exactly if `socket` gave
back the number it gave at the creation, and the name of the server's address does not write
another number into `server_infos`. -/
theorem client_polls_connection_iff (run : ClientRun created done t) {hostname : List UInt8}
    {tcpPort : UInt16} {timeout : Int}
    (h : Exec (udtcpConnectClient hostname tcpPort timeout) t tr .success t') :
    PollsConnected t'.self tr ↔ tcpSockets tr = tcpSockets created ∧
      ∀ sock ∈ tcpSockets tr, ∀ text ∈ foundNames tr,
        Bytes.slice text (UdtcpInfos.tcpSocketOffset - UdtcpInfos.hostnameOffset) 4 <+:
          Bytes.Codec.i32.encode sock := by
  obtain ⟨fd, hcreated, hw⟩ := run.watches
  obtain ⟨hw', hsuccess⟩ := dials_of_must (must_udtcpConnectClient hw) h
  obtain ⟨sock, name, hdials, hsock, hname⟩ := hsuccess rfl
  have hopened : tcpSockets tr = [sock] := by
    rw [tcpSockets, hdials]
    cases name <;> rfl
  have hconnected : connectedSockets tr = [sock] := by
    rw [connectedSockets, hdials]
    cases name <;> rfl
  have hfound : foundNames tr = name.toList := by
    rw [foundNames, hdials]
    cases name <;> rfl
  have hold : tcpSockets created = [fd] := by
    rw [tcpSockets, hcreated]
    rfl
  have hpolled : t'.self.polled.head? = some (t'.self.pollFds 0) := by
    rw [UdtcpClient.polled, hw'.pollNfds]
    rfl
  rw [hopened, hold, hfound]
  constructor
  · intro hp
    have heq : sock = fd := hsock.symm.trans (hp.entry.symm.trans hw'.fd)
    refine ⟨by rw [heq], fun sock' hsock' text htext ↦ ?_⟩
    obtain rfl := List.mem_singleton.mp hsock'
    exact hname.mp (hp.record.trans hsock) text (Option.mem_toList.mp htext)
  · rintro ⟨heq, htext⟩
    obtain rfl : sock = fd := List.singleton_inj.mp heq
    refine ⟨hw'.fd.trans hsock.symm, ?_, by rw [hconnected, hsock], hpolled, hw'.events⟩
    refine (hname.mpr fun text hfind ↦ ?_).trans hsock.symm
    exact htext sock (List.mem_singleton_self _) text (Option.mem_toList.mpr hfind)

/-- A client whose connection gets the number of the socket made at its creation polls it. -/
theorem client_polls_connection_same : ∃ (tr : Trace posix) (t : Thread UdtcpClient),
    PollsConnected t.self tr := by
  obtain ⟨created, n, t, hcreate, rfl, rfl, -⟩ := may_udtcpCreateClient ⟨.other 0, .zero 0⟩
    ⟨3, by decide⟩ ⟨4, by decide⟩ ⟨5, by decide⟩
  obtain ⟨tr, result, t', hconnect, rfl, key, r, rfl, -⟩ := may_udtcpConnectClient
    ⟨.other 0, t.self.withCallbacks false false false false⟩ ⟨3, by decide⟩ 0 length_blankRecord
  refine ⟨_, t', (client_polls_connection_iff
    ((ClientRun.create hcreate).configure false false false false (.other 0)) hconnect).mpr
    ⟨rfl, fun sock _ text htext ↦ ?_⟩⟩
  cases htext

/-! ### Other code of the process -/

/-- The open descriptors of the process: those of the library and those of everything else. -/
structure Descriptors where
  own : List Fd
  other : List Fd

/-- Between two calls the rest of the process may open and close descriptors, but not those of the
library; `socket` gives a number that is not open. -/
def Descriptors.Moves (k : Descriptors) (x : Option Sighting) (k' : Descriptors) : Prop :=
  (∀ fd ∈ k'.other, fd ∉ k'.own) ∧
    match x with
    | some (.opened fd) => fd ∉ k.own ∧ fd ∉ k.other ∧ k'.own = fd :: k.own
    | some (.closed fd) => k'.own = k.own.filter (· ≠ fd)
    | _ => k'.own = k.own

/-- The kernel as far as descriptor numbers go. -/
def descriptorKernel : Kernel posix Descriptors := fun k c r k' ↦ k.Moves (sightingOf c r) k'

/-- Moves at what is seen, with everything else at rest in between. -/
def Descriptors.Follows : Descriptors → List Sighting → Descriptors → Prop
  | k, [], k' => k' = k
  | k, x :: xs, k' => ∃ k₁, k.Moves (some x) k₁ ∧ Follows k₁ xs k'

private theorem accepts_of_follows {k k' : Descriptors} {tr : Trace posix}
    (hk : ∀ fd ∈ k.other, fd ∉ k.own) (h : k.Follows (sightings tr) k') :
    descriptorKernel.Accepts k tr k' := by
  induction tr generalizing k with
  | nil => exact h
  | cons e tr ih =>
    rw [sightings_cons] at h
    cases hx : sightingOf e.call e.reply with
    | none =>
      rw [hx] at h
      refine ⟨k, ?_, ih hk h⟩
      rw [descriptorKernel, hx]
      exact ⟨hk, rfl⟩
    | some x =>
      rw [hx] at h
      obtain ⟨k₁, hmove, hrest⟩ := h
      refine ⟨k₁, ?_, ih hmove.1 hrest⟩
      rw [descriptorKernel, hx]
      exact hmove

/-- Other code takes the number of the socket closed at the end of the creation. The connection
gets the number 6, while the client goes on polling 3. -/
theorem client_polls_foreign_descriptor : ∃ (created tr : Trace posix) (t t' : Thread UdtcpClient)
    (k k' : Descriptors), ClientRun created created t ∧
      descriptorKernel.Accepts ⟨[], []⟩ created k ∧
      Exec (udtcpConnectClient [] 0 0) t tr .success t' ∧ descriptorKernel.Accepts k tr k' ∧
      (t'.self.pollFds 0).fd ∈ k'.other ∧ t'.self.clientInfos.tcpSocket = 6 ∧
      ¬ PollsConnected t'.self tr := by
  obtain ⟨created, n, t, hcreate, rfl, hcalls, -⟩ := may_udtcpCreateClient ⟨.other 0, .zero 0⟩
    ⟨3, by decide⟩ ⟨4, by decide⟩ ⟨5, by decide⟩
  have hrun := (ClientRun.create hcreate).configure false false false false (.other 0)
  obtain ⟨tr, result, t', hconnect, rfl, key, r, htr, hself⟩ := may_udtcpConnectClient
    ⟨.other 0, t.self.withCallbacks false false false false⟩ ⟨6, by decide⟩ 0 length_blankRecord
  obtain ⟨fd, hfd, hw⟩ := hrun.watches
  have hthree : fd = 3 := by
    rw [hcalls] at hfd
    cases hfd
    rfl
  subst hthree
  have hentry : (t'.self.pollFds 0).fd = 3 := by
    rw [hself]
    exact hw.fd
  have hsock : t'.self.clientInfos.tcpSocket = 6 := by rw [hself]; rfl
  refine ⟨created, tr, _, t', ⟨[5, 4], [3]⟩, ⟨[6, 5, 4], [3]⟩, hrun, ?_, hconnect, ?_,
    by rw [hentry]; simp, hsock, fun hp ↦ ?_⟩
  · rw [hcalls]
    refine accepts_of_follows (by simp) ⟨⟨[3], []⟩, ?_, ⟨[4, 3], []⟩, ?_, ⟨[5, 4, 3], []⟩, ?_,
      ⟨[5, 4], [3]⟩, ?_, rfl⟩ <;> simp [Descriptors.Moves]
  · rw [htr]
    refine accepts_of_follows (by simp) ⟨⟨[6, 5, 4], [3]⟩, ?_, ⟨[6, 5, 4], [3]⟩, ?_, rfl⟩ <;>
      simp [Descriptors.Moves]
  · have heq := hentry.symm.trans (hp.entry.trans hsock)
    exact absurd heq (by decide)

end

end Udtcp
