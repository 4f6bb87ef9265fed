import Udtcp.Base.StringInfos
import Udtcp.Receive.Reception

/-!
# The server and one pass of its poll loop

`struct udtcp_server_s` of `udtcp/include/udtcp.h:161–194` and `udtcp/src/server_poll.c`.
The table size is a parameter, as `UDTCP_MAX_CONNECTION` is. The arrays are total functions
of the index; what they hold from `pollTableSize` on stands for the memory behind them.
Loops whose length the environment decides are followed for `fuel` rounds.
-/

namespace Udtcp

open Interaction

/-- `UDTCP_POLL_TABLE_SIZE` for a given `UDTCP_MAX_CONNECTION`. -/
def pollTableSize (maxConnection : Nat) : Nat := 2 + maxConnection

/-- `struct udtcp_server_s`, at address `addr`. `server_infos` is `infos[0]`; the send
structures are shared with other threads and reached by their address. The callback fields
say whether a callback is defined. -/
structure UdtcpServer (maxConnection : Nat) where
  addr : UInt64
  infos : Nat → UdtcpInfos
  pollFds : Nat → PollFd
  pollNfds : Nat
  connectCallback : Bool
  disconnectCallback : Bool
  receiveTcpCallback : Bool
  receiveUdpCallback : Bool
  countId : UInt64
  buffer : ReceiveBuffer

/-- Results of a poll, `enum udtcp_poll_e`. -/
inductive UdtcpPoll where
  | success
  | error
  | timeout
  | signal
  deriving DecidableEq, Repr

section

variable {m : Nat}

/-- Routines of the server. -/
abbrev ServerProc (m : Nat) (α : Type) := Proc (UdtcpServer m) α

namespace UdtcpServer

/-- `server->server_infos`. -/
def serverInfos (s : UdtcpServer m) : UdtcpInfos := s.infos 0

/-- `&server->sends[i]`: behind two pointers and the records, 72 bytes each. -/
def sendAddr (s : UdtcpServer m) (i : Nat) : UInt64 :=
  s.addr + UInt64.ofNat (16 + UdtcpInfos.sizeof * pollTableSize m + 72 * i)

/-- The entries handed to `poll`. -/
def polled (s : UdtcpServer m) : List PollFd := (List.range s.pollNfds).map s.pollFds

/-- Replace one record. -/
def setInfos (s : UdtcpServer m) (slot : Nat) (r : UdtcpInfos) : UdtcpServer m :=
  { s with infos := Function.update s.infos slot r }

/-- Change one record. -/
def modifyInfos (s : UdtcpServer m) (slot : Nat) (f : UdtcpInfos → UdtcpInfos) : UdtcpServer m :=
  s.setInfos slot (f (s.infos slot))

/-- Change one poll entry. -/
def modifyPollFd (s : UdtcpServer m) (slot : Nat) (f : PollFd → PollFd) : UdtcpServer m :=
  { s with pollFds := Function.update s.pollFds slot (f (s.pollFds slot)) }

/-- The poll entries after `poll` reported `revents`. -/
def setRevents (s : UdtcpServer m) (revents : Nat → UInt16) : UdtcpServer m :=
  { s with pollFds := fun i ↦
      if i < s.pollNfds then { s.pollFds i with revents := revents i } else s.pollFds i }

end UdtcpServer

/-- Run a routine on one record of the table. -/
def onInfos {α : Type} (slot : Nat) (p : Proc UdtcpInfos α) : ServerProc m α :=
  onPart (fun s ↦ s.infos slot) (fun r s ↦ s.setInfos slot r) p

/-- `recv` of a peer's record over `infos[slot]`. The byte that may come in behind it lands
in the next record or, behind the last one, in the mutex of `sends[0]`. -/
def writeRecord (slot : Nat) (bs : List UInt8) : ServerProc m Unit := do
  update (·.modifyInfos slot (·.patch 0 bs))
  match bs[UdtcpInfos.sizeof]? with
  | none => pure ()
  | some b =>
    if slot + 1 < pollTableSize m then
      update (·.modifyInfos (slot + 1) (·.patch 0 [b]))
    else
      let addr := (← self).sendAddr 0
      let value ← request (.loadSend addr)
      issue (.storeSend addr { value with mutex := value.mutex.set 0 b UdtcpSend.mutex_pos })

/-- `initialize_connection`, `server_poll.c:35–103`, on `infos[slot]`. -/
def initializeConnection (slot : Nat) : ServerProc m Int := do
  let s ← self
  let sent := match ← syscall (.send (s.infos slot).tcpSocket s.serverInfos.encode) with
    | .error _ => none
    | .ok n => some n.val
  if sent ≠ some UdtcpInfos.sizeof then
    return -1
  else if (← pollIn (s.infos slot).tcpSocket) ≤ 0 then
    return -1
  else
    let save := (← self).infos slot
    match ← syscall (.recv save.tcpSocket .record (UdtcpInfos.sizeof + 1)) with
    | .error _ => return -1
    | .ok bs =>
      writeRecord slot bs.val
      if bs.val.length ≠ UdtcpInfos.sizeof then
        return -1
      else
        let serverInfos := (← self).serverInfos
        update (·.modifyInfos slot fun r ↦ { r with
          tcpAddr := { r.tcpAddr with sAddr := save.tcpAddr.sAddr }
          udpServerAddr := { r.udpServerAddr with sAddr := save.tcpAddr.sAddr }
          udpClientAddr := { r.udpClientAddr with sAddr := save.tcpAddr.sAddr }
          tcpSocket := save.tcpSocket
          udpServerSocket := serverInfos.udpClientSocket
          udpClientSocket := serverInfos.udpServerSocket })
        return 0

/-- `htons`: the two bytes of a port swapped. -/
def htons (port : UInt16) : UInt16 := port <<< 8 ||| port >>> 8

/-- `server_poll.c:111–128`: a connection is taken and dropped when the table is full. -/
def refuseClient : ServerProc m Int := do
  match ← syscall (.accept (← self).serverInfos.tcpSocket) with
  | .error _ => return -1
  | .ok (fd, _) =>
    let _ ← syscall (.send fd.val [0])
    let _ ← syscall (.close fd.val)
    return -1

/-- `server_poll.c:161–194`: enter the connection at `infos[slot]` in the table. -/
def registerClient (slot : Nat) : ServerProc m Unit := do
  let s ← self
  update (·.modifyInfos slot fun r ↦ { r with send := s.sendAddr slot, id := s.countId })
  onInfos slot (udtcpSetStringInfos (·.tcpAddr))
  update (·.modifyInfos slot fun r ↦ { r with tcpPort := htons r.tcpAddr.sinPort })
  update fun s ↦ s.modifyPollFd slot fun p ↦
    { p with fd := (s.infos slot).tcpSocket, events := POLLIN }
  let s ← self
  if s.connectCallback then
    issue (.callback (.connect slot (s.infos slot)))
  else
    pure ()
  update fun s ↦ { s with pollNfds := s.pollNfds + 1, countId := s.countId + 1 }

/-- `server_poll.c:146–194`, from the accepted descriptor in `infos[slot]` on. -/
def admitClient (slot : Nat) : ServerProc m Int := do
  if (← udtcpSocketAddOption ((← self).infos slot).tcpSocket O_NONBLOCK) = -1 then
    let _ ← syscall (.close ((← self).infos slot).tcpSocket)
    return -1
  else if (← initializeConnection slot) = -1 then
    let _ ← syscall (.close ((← self).infos slot).tcpSocket)
    return -1
  else
    registerClient slot
    return 0

/-- `accept_client`, `server_poll.c:105–195`. -/
def acceptClient : ServerProc m Int := do
  let s ← self
  if pollTableSize m ≤ s.pollNfds then
    refuseClient
  else
    match ← syscall (.accept s.serverInfos.tcpSocket) with
    | .error _ =>
      update (·.modifyInfos s.pollNfds fun r ↦ { r with tcpSocket := -1 })
      return -1
    | .ok (fd, addr) =>
      update (·.modifyInfos s.pollNfds fun r ↦ { r with tcpAddr := addr, tcpSocket := fd.val })
      admitClient s.pollNfds

/-- Run a reception on the server's buffer. -/
def onBuffer {α : Type} (p : Proc ReceiveBuffer α) : ServerProc m α :=
  onPart UdtcpServer.buffer (fun b s ↦ { s with buffer := b }) p

/-- `receive_tcp`, `server_poll.c:197–299`, for `infos[slot]`. -/
def receiveTcp (slot : Nat) : ServerProc m Int := do
  let s ← self
  onBuffer (receiveTcpWith (s.infos slot).tcpSocket
    (if s.receiveTcpCallback then some (.receiveTcp slot (s.infos slot)) else none) cInt)

/-- `udtcp_get_infos`, `server_poll.c:301–318`: the first slot with the sender's address. -/
def udtcpGetInfos (s : UdtcpServer m) (addr : SockaddrIn) : Option Nat :=
  (List.range' 2 (s.pollNfds - 2)).find? fun i ↦
    (s.infos i).udpClientAddr.sAddr = addr.sAddr
      ∧ (s.infos i).udpClientAddr.sinPort = addr.sinPort

/-- `receive_udp`, `server_poll.c:320–411`. -/
def receiveUdp : ServerProc m Int := do
  let s ← self
  let route : Route := fun addr ↦ (udtcpGetInfos s addr).map fun slot ↦
    if s.receiveUdpCallback then some (.receiveUdp slot (s.infos slot)) else none
  onBuffer (receiveUdpWith s.serverInfos.udpServerSocket route cInt)

/-- `disconnect`, `server_poll.c:413–437`. -/
def disconnect (slot : Nat) : ServerProc m Unit := do
  let _ ← syscall (.shutdown ((← self).infos slot).tcpSocket)
  let _ ← syscall (.close ((← self).infos slot).tcpSocket)
  let s ← self
  if s.disconnectCallback then
    issue (.callback (.disconnect slot (s.infos slot)))
  else
    pure ()

end

/-- `ret = body(); while (poll_loop && again(ret)) ret = body();` -/
def drain {τ : Type} (fuel : Nat) (body : Proc τ Int) (again : Int → Bool) : Proc τ Int := do
  Routine.loop (fun ret ↦ do
    if (← request .pollLoop) && again ret then
      return .inl (← body)
    else
      return .inr ret) fuel (← body)

section

variable {m : Nat}

/-- `server_poll.c:503–505`: disconnect a client and mark its entry. -/
def dropClient (slot : Nat) : ServerProc m Unit := do
  disconnect slot
  update (·.modifyPollFd slot fun p ↦ { p with fd := -1 })

/-- `server_poll.c:494–514`; reports whether the entry was marked. -/
def serveClient (fuel : Nat) (slot : Nat) : ServerProc m Bool := do
  let ret ← drain fuel (receiveTcp slot) (0 < ·)
  if ret < 0 then
    if (← errno) ≠ .ewouldblock then
      dropClient slot
      return true
    else
      return false
  else if ret = 0 then
    dropClient slot
    return true
  else
    return false

/-- `server_poll.c:467–515`; reports whether the entry was marked. -/
def serveSlot (fuel : Nat) (slot : Nat) : ServerProc m Bool := do
  let s ← self
  let entry := s.pollFds slot
  if entry.revents = 0 then
    return false
  else if entry.revents &&& POLLIN = 0 then
    return false
  else if entry.fd = s.serverInfos.tcpSocket then
    let _ ← drain fuel acceptClient (· = 0)
    return false
  else if entry.fd = s.serverInfos.udpServerSocket then
    let _ ← drain fuel receiveUdp (0 < ·)
    return false
  else
    serveClient fuel slot

/-- One round of the loop of `server_poll.c:465–516`, over the index and
`organise_array`. -/
def scanSlot (fuel : Nat) (i : Nat × Bool) : ServerProc m ((Nat × Bool) ⊕ Bool) := do
  if (← request .pollLoop) && i.1 < (← self).pollNfds then
    let marked ← serveSlot fuel i.1
    return .inl (i.1 + 1, i.2 || marked)
  else
    return .inr i.2

/-- `memcpy` of `n` elements from index `dst + 1` down to `dst`, in ascending order. -/
def copyDown {α : Type} (a : Nat → α) (dst : Nat) : Nat → Nat → α
  | 0 => a
  | n + 1 => copyDown (Function.update a dst (a (dst + 1))) (dst + 1) n

/-- `server_poll.c:524–534`: delete entry `i` from both arrays. -/
def UdtcpServer.removeSlot (s : UdtcpServer m) (i : Nat) : UdtcpServer m :=
  if i < s.pollNfds - 1 then
    { s with
      pollFds := copyDown s.pollFds i (s.pollNfds - i)
      infos := copyDown s.infos i (s.pollNfds - i)
      pollNfds := s.pollNfds - 1 }
  else
    { s with pollNfds := s.pollNfds - 1 }

/-- The loop of `server_poll.c:520–536` from index `i` on. Every round brings the index and
the bound one closer, so `rounds` is never used up before the loop ends. -/
def UdtcpServer.compactFrom : Nat → Nat → UdtcpServer m → UdtcpServer m
  | 0, _, s => s
  | rounds + 1, i, s =>
    if i < s.pollNfds then
      if (s.pollFds i).fd = -1 then
        compactFrom rounds i (s.removeSlot i)
      else
        compactFrom rounds (i + 1) s
    else s

/-- The compaction of `server_poll.c:519–536`. -/
def UdtcpServer.compact (s : UdtcpServer m) : UdtcpServer m := s.compactFrom s.pollNfds 2

/-- `udtcp_server_poll`, `server_poll.c:439–539`. -/
def udtcpServerPoll (fuel : Nat) (timeout : Int) : ServerProc m UdtcpPoll := do
  let reply ← syscall (.poll (← self).polled timeout)
  match reply with
  | .error _ =>
    if (← errno) = .eintr then
      return .signal
    else
      return .error
  | .ok revents =>
    update (·.setRevents (reventsAt revents))
    if pollCount reply = 0 then
      return .timeout
    else
      let organise ← Routine.loop (scanSlot fuel) fuel (0, false)
      if organise then
        update UdtcpServer.compact
      else
        pure ()
      return .success

end

end Udtcp
