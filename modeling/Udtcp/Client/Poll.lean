import Udtcp.Server.Poll

/-!
# The client and one pass of its poll loop

`struct udtcp_client_s` of `udtcp/include/udtcp.h:196–227` and `udtcp/src/client_poll.c`.
-/

namespace Udtcp

open Interaction

/-- `struct udtcp_client_s`, at address `addr`. `client_infos` is `infos[0]`, `server_infos`
is `infos[1]`; the callback fields say whether a callback is defined. -/
structure UdtcpClient where
  addr : UInt64
  clientInfos : UdtcpInfos
  serverInfos : UdtcpInfos
  pollFds : Nat → PollFd
  pollNfds : Nat
  connectCallback : Bool
  disconnectCallback : Bool
  receiveTcpCallback : Bool
  receiveUdpCallback : Bool
  buffer : ReceiveBuffer

/-- Routines of the client. -/
abbrev ClientProc (α : Type) := Proc UdtcpClient α

namespace UdtcpClient

/-- `&client->send`: behind two pointers and the two records. -/
def sendAddr (c : UdtcpClient) : UInt64 := c.addr + UInt64.ofNat (16 + UdtcpInfos.sizeof * 2)

/-- The entries handed to `poll`. -/
def polled (c : UdtcpClient) : List PollFd := (List.range c.pollNfds).map c.pollFds

/-- The poll entries after `poll` reported `revents`. -/
def setRevents (c : UdtcpClient) (revents : Nat → UInt16) : UdtcpClient :=
  { c with pollFds := fun i ↦
      if i < c.pollNfds then { c.pollFds i with revents := revents i } else c.pollFds i }

/-- The client after a change of `client_infos->tcp_socket`. -/
def setTcpSocket (c : UdtcpClient) (fd : Fd) : UdtcpClient :=
  { c with clientInfos := { c.clientInfos with tcpSocket := fd } }

end UdtcpClient

namespace Client

/-- Run a reception on the client's buffer. -/
def onBuffer {α : Type} (p : Proc ReceiveBuffer α) : ClientProc α :=
  onPart UdtcpClient.buffer (fun b c ↦ { c with buffer := b }) p

/-- `receive_tcp`, `client_poll.c:34–147`. -/
def receiveTcp : ClientProc Int := do
  let c ← self
  onBuffer (receiveTcpWith c.serverInfos.tcpSocket
    (if c.receiveTcpCallback then some (.receiveTcp 1 c.serverInfos) else none) fun _ ↦ 1)

/-- `receive_udp`, `client_poll.c:149–243`: any source is taken for the server. -/
def receiveUdp : ClientProc Int := do
  let c ← self
  let route : Route := fun _ ↦ some
    (if c.receiveUdpCallback then some (.receiveUdp 1 c.serverInfos) else none)
  onBuffer (receiveUdpWith c.clientInfos.udpServerSocket route fun _ ↦ 1)

/-- `disconnect`, `client_poll.c:245–270`. -/
def disconnect : ClientProc Unit := do
  let _ ← syscall (.shutdown (← self).clientInfos.tcpSocket)
  let _ ← syscall (.close (← self).clientInfos.tcpSocket)
  update (·.setTcpSocket (-1))
  let c ← self
  if c.disconnectCallback then
    issue (.callback (.disconnect 1 c.serverInfos))
  else
    pure ()

/-- `client_poll.c:313–331` and `:336–357`: drain one socket; `some` result ends the pass. -/
def serveSocket (fuel : Nat) (receive : ClientProc Int) : ClientProc (Option UdtcpPoll) := do
  let ret ← drain fuel receive (0 < ·)
  if ret < 0 then
    if (← errno) ≠ .ewouldblock then
      disconnect
      return some .error
    else
      return none
  else if ret = 0 then
    disconnect
    return some .error
  else
    return none

/-- `client_poll.c:299–358`, for entry `i`. -/
def serveEntry (fuel : Nat) (i : Nat) : ClientProc (Option UdtcpPoll) := do
  let c ← self
  let entry := c.pollFds i
  if entry.revents = 0 then
    return none
  else if entry.revents &&& POLLIN = 0 then
    return some .error
  else if entry.fd = c.clientInfos.tcpSocket then
    serveSocket fuel receiveTcp
  else if entry.fd = c.clientInfos.udpServerSocket then
    serveSocket fuel receiveUdp
  else
    return none

/-- One round of the loop of `client_poll.c:297–359`. -/
def scanEntry (fuel : Nat) (i : Nat) : ClientProc (Nat ⊕ UdtcpPoll) := do
  if (← request .pollLoop) && i < (← self).pollNfds then
    match ← serveEntry fuel i with
    | some result => return .inr result
    | none => return .inl (i + 1)
  else
    return .inr .success

end Client

/-- `udtcp_client_poll`, `client_poll.c:272–361`. -/
def udtcpClientPoll (fuel : Nat) (timeout : Int) : ClientProc UdtcpPoll := do
  let reply ← syscall (.poll (← self).polled timeout)
  match reply with
  | .error _ =>
    if (← errno) = .eintr then
      return .signal
    else
      return .error
  | .ok revents =>
    update (·.setRevents (reventsAt revents))
    if pollCount reply = 0 then
      return .timeout
    else
      Routine.loop (Client.scanEntry fuel) fuel 0

end Udtcp
