import Udtcp.Client.Create

/-!
# Creating and deleting a server

`udtcp/src/create_server.c` and `udtcp/src/delete_server.c`.
-/

namespace Udtcp

section

variable {m : Nat}

namespace UdtcpServer

/-- A server cleared by `memset`, at address `addr`. -/
def zero (addr : UInt64) : UdtcpServer m where
  addr := addr
  infos _ := .zero
  pollFds _ := ⟨0, 0, 0⟩
  pollNfds := 0
  connectCallback := false
  disconnectCallback := false
  receiveTcpCallback := false
  receiveUdpCallback := false
  countId := 0
  buffer := .empty

/-- A server without clients that listens on `tcp` and receives datagrams on `udp`. -/
def listening (tcp udp : Fd) : UdtcpServer m :=
  { zero (m := m) 0 with
    infos := Function.update (fun _ ↦ .zero) 0
      { UdtcpInfos.zero with tcpSocket := tcp, udpServerSocket := udp }
    pollFds := Function.update (Function.update (fun _ ↦ ⟨0, 0, 0⟩) 0 ⟨tcp, POLLIN, 0⟩)
      1 ⟨udp, POLLIN, 0⟩
    pollNfds := 2
    countId := 1 }

/-- Change `server_infos`. -/
def modifyServerInfos (s : UdtcpServer m) (f : UdtcpInfos → UdtcpInfos) : UdtcpServer m :=
  s.modifyInfos 0 f

end UdtcpServer

namespace Server

/-- `delete_server.c:52–59`, for the send structures of a list of indices. -/
def releaseSends (s : UdtcpServer m) : List Nat → ServerProc m Unit
  | [] => return ()
  | i :: is => do
    let send ← request (.loadSend (s.sendAddr i))
    if 0 < send.bufferSize then
      freeBlock send.buffer
    else
      pure ()
    issue (.mutexDestroy (s.sendAddr i))
    releaseSends s is

/-- `delete_server.c:60–78`, for the slots of a list. -/
def releaseClients (s : UdtcpServer m) : List Nat → ServerProc m Unit
  | [] => return ()
  | i :: is => do
    shutdownIfOpen (s.pollFds i).fd
    closeIfOpen (s.pollFds i).fd
    if (s.pollFds i).fd ≠ -1 ∧ s.disconnectCallback then
      issue (.callback (.disconnect i (s.infos i)))
    else
      pure ()
    releaseClients s is

end Server

/-- `udtcp_delete_server`, `delete_server.c:33–84`. -/
def udtcpDeleteServer : ServerProc m Unit := do
  let s ← self
  closeIfOpen s.serverInfos.tcpSocket
  closeIfOpen s.serverInfos.udpServerSocket
  closeIfOpen s.serverInfos.udpClientSocket
  Server.releaseSends s (List.range' 2 (pollTableSize m - 2))
  Server.releaseClients s (List.range' 2 (s.pollNfds - 2))
  if 0 < s.buffer.bufferSize then
    freeBlock s.buffer.bufferData
  else
    pure ()
  issue .freeServer

namespace Server

/-- The failure exit of most of `udtcp_create_server`. -/
def abandon : ServerProc m Int := do
  udtcpDeleteServer
  return -1

/-- Destroy the send mutexes of a list of indices. -/
def destroyMutexes (s : UdtcpServer m) : List Nat → ServerProc m Unit
  | [] => return ()
  | i :: is => do
    issue (.mutexDestroy (s.sendAddr i))
    destroyMutexes s is

/-- Initialise the send mutexes of a list of indices; the index that failed, if any. -/
def initMutexes (s : UdtcpServer m) : List Nat → ServerProc m (Option Nat)
  | [] => return none
  | i :: is => do
    let initialized : Bool ← request (.mutexInit (s.sendAddr i))
    if initialized then
      initMutexes s is
    else
      return some i

/-- `memset` of the send structures of a list of indices. -/
def clearSends (s : UdtcpServer m) : List Nat → ServerProc m Unit
  | [] => return ()
  | i :: is => do
    issue (.storeSend (s.sendAddr i) .zero)
    clearSends s is

/-- `create_server.c:232–242`. -/
def finishServer : ServerProc m Int := do
  update (·.modifyServerInfos fun r ↦ { r with id := 0 })
  onInfos 0 (udtcpSetStringInfos (·.tcpAddr))
  update fun s ↦ { s with countId := 1 }
  return 0

/-- `create_server.c:203–230`. -/
def listenServer : ServerProc m Int := do
  update (·.modifyServerInfos fun r ↦ { r with
    tcpPort := htons r.tcpAddr.sinPort
    udpServerPort := htons r.udpServerAddr.sinPort
    udpClientPort := htons r.udpClientAddr.sinPort })
  match ← syscall (.listen (← self).serverInfos.tcpSocket 10) with
  | .error _ => abandon
  | .ok _ =>
    if (← udtcpSocketAddOption (← self).serverInfos.tcpSocket O_NONBLOCK) = -1 then
      abandon
    else if (← udtcpSocketAddOption (← self).serverInfos.udpServerSocket O_NONBLOCK) = -1 then
      abandon
    else
      finishServer

/-- `create_server.c:131–201`. -/
def bindSockets (host : Hostent) (tcpPort udpServerPort udpClientPort : UInt16) :
    ServerProc m Int := do
  update (·.modifyServerInfos fun r ↦ { r with tcpAddr := bindAddr host.addr tcpPort })
  match ← bindSocket (← self).serverInfos.tcpSocket (← self).serverInfos.tcpAddr with
  | none => abandon
  | some name =>
    update (·.modifyServerInfos fun r ↦ { r with
      tcpAddr := name
      udpServerAddr := bindAddr host.addr udpServerPort })
    match ← bindSocket (← self).serverInfos.udpServerSocket
        (← self).serverInfos.udpServerAddr with
    | none => abandon
    | some name =>
      update (·.modifyServerInfos fun r ↦ { r with
        udpServerAddr := name
        udpClientAddr := bindAddr host.addr udpClientPort })
      match ← bindSocket (← self).serverInfos.udpClientSocket
          (← self).serverInfos.udpClientAddr with
      | none => abandon
      | some name =>
        update (·.modifyServerInfos fun r ↦ { r with udpClientAddr := name })
        listenServer

/-- The failure exits of `create_server.c:88–129`, after the sockets in `opened`. -/
def releaseServer (opened : List Fd) : ServerProc m Int := do
  destroyMutexes (← self) (List.range' 2 (pollTableSize m - 2))
  closeAll opened
  issue .freeServer
  return -1

/-- `create_server.c:84–129`. -/
def openSockets (host : Hostent) (tcpPort udpServerPort udpClientPort : UInt16) :
    ServerProc m Int := do
  match ← syscall (.socket .stream) with
  | .error _ => releaseServer []
  | .ok tcp =>
    update (·.modifyServerInfos fun r ↦ { r with tcpSocket := tcp.val })
    update (·.modifyPollFd 0 fun p ↦ { p with fd := tcp.val, events := POLLIN })
    update fun s ↦ { s with pollNfds := 1 }
    match ← syscall (.socket .dgram) with
    | .error _ => releaseServer [tcp.val]
    | .ok udpServer =>
      update (·.modifyServerInfos fun r ↦ { r with udpServerSocket := udpServer.val })
      update (·.modifyPollFd 1 fun p ↦ { p with fd := udpServer.val, events := POLLIN })
      update fun s ↦ { s with pollNfds := 2 }
      match ← syscall (.socket .dgram) with
      | .error _ => releaseServer [tcp.val, udpServer.val]
      | .ok udpClient =>
        update (·.modifyServerInfos fun r ↦ { r with udpClientSocket := udpClient.val })
        bindSockets host tcpPort udpServerPort udpClientPort

end Server

/-- `udtcp_create_server`, `create_server.c:38–243`. The server is the object left behind
when the result is zero. The roll-back of the mutexes runs from the index before the failed
one down to, and not including, index 2. -/
def udtcpCreateServer (hostname : List UInt8)
    (tcpPort udpServerPort udpClientPort : UInt16) : ServerProc m Int := do
  let host ← request (.gethostbyname hostname)
  match (host : Option Hostent) with
  | none =>
    setErrno .ehostunreach
    return -1
  | some host =>
    match ← syscall .newServer with
    | .error _ => return -1
    | .ok addr =>
      update fun _ ↦ .zero addr
      let s ← self
      Server.clearSends s (List.range (pollTableSize m))
      match ← Server.initMutexes s (List.range' 2 (pollTableSize m - 2)) with
      | some i =>
        Server.destroyMutexes s (List.range' 3 (i - 3)).reverse
        issue .freeServer
        return -1
      | none => Server.openSockets host tcpPort udpServerPort udpClientPort

end

end Udtcp
