import Udtcp.Client.Connect

/-!
# Creating and deleting a client

`udtcp/src/create_client.c` and `udtcp/src/delete_client.c`.
-/

namespace Udtcp

/-- `htonl`: the four bytes of an address reversed. -/
def htonl (addr : UInt32) : UInt32 :=
  addr <<< 24 ||| (addr &&& (0xff00 : UInt32)) <<< 8 ||| (addr >>> 8 &&& (0xff00 : UInt32)) |||
    addr >>> 24

/-- The address the creation functions bind: `AF_INET`, `htonl(host_addr)`, `htons(port)`. -/
def bindAddr (hostAddr : UInt32) (port : UInt16) : SockaddrIn :=
  ⟨AF_INET, htons port, htonl hostAddr, .replicate 8 0⟩

/-- Bind a socket and read its address back; `none` when a call failed. -/
def bindSocket {τ : Type} (fd : Fd) (addr : SockaddrIn) : Proc τ (Option SockaddrIn) := do
  match ← syscall (.bind fd addr) with
  | .error _ => return none
  | .ok _ =>
    match ← syscall (.getsockname fd) with
    | .error _ => return none
    | .ok name => return some name

/-- Set one option on the sockets of a list in turn, until a call fails. -/
def setOptions {τ : Type} (option : SocketOption) : List Fd → Proc τ Bool
  | [] => return true
  | fd :: fds => do
    match ← syscall (.setsockopt fd option) with
    | .error _ => return false
    | .ok _ => setOptions option fds

/-- `udtcp_free_buffer`; freeing a null pointer does nothing. -/
def freeBlock {τ : Type} (b : Option Block) : Proc τ Unit :=
  match b with
  | some b => issue (.freeBuffer b.ptr)
  | none => pure ()

/-- Shut a descriptor down unless it is `-1`. -/
def shutdownIfOpen {τ : Type} (fd : Fd) : Proc τ Unit := do
  if fd ≠ -1 then
    let _ ← syscall (.shutdown fd)
    return ()
  else
    return ()

/-- Close a descriptor unless it is `-1`. -/
def closeIfOpen {τ : Type} (fd : Fd) : Proc τ Unit := do
  if fd ≠ -1 then
    let _ ← syscall (.close fd)
    return ()
  else
    return ()

/-- Close the descriptors of a list in turn. -/
def closeAll {τ : Type} : List Fd → Proc τ Unit
  | [] => return ()
  | fd :: fds => do
    let _ ← syscall (.close fd)
    closeAll fds

/-- `udtcp_delete_client`, `delete_client.c:33–71`. -/
def udtcpDeleteClient : ClientProc Unit := do
  let c ← self
  shutdownIfOpen c.clientInfos.tcpSocket
  closeIfOpen c.clientInfos.tcpSocket
  closeIfOpen c.clientInfos.udpServerSocket
  closeIfOpen c.clientInfos.udpClientSocket
  if c.clientInfos.tcpSocket ≠ -1 ∧ c.disconnectCallback then
    issue (.callback (.disconnect 1 c.serverInfos))
  else
    pure ()
  if 0 < c.buffer.bufferSize then
    freeBlock c.buffer.bufferData
  else
    pure ()
  let send ← request (.loadSend c.sendAddr)
  if 0 < send.bufferSize then
    freeBlock send.buffer
  else
    pure ()
  issue (.mutexDestroy c.sendAddr)
  issue .freeClient

namespace UdtcpClient

/-- A client cleared by `memset`, at address `addr`. -/
def zero (addr : UInt64) : UdtcpClient where
  addr := addr
  clientInfos := .zero
  serverInfos := .zero
  pollFds _ := ⟨0, 0, 0⟩
  pollNfds := 0
  connectCallback := false
  disconnectCallback := false
  receiveTcpCallback := false
  receiveUdpCallback := false
  buffer := .empty

/-- Change `client_infos`. -/
def modifyClientInfos (c : UdtcpClient) (f : UdtcpInfos → UdtcpInfos) : UdtcpClient :=
  { c with clientInfos := f c.clientInfos }

end UdtcpClient

namespace Client

/-- The failure exit of most of `udtcp_create_client`. -/
def abandon : ClientProc Int := do
  udtcpDeleteClient
  return -1

/-- `create_client.c:232–265`. -/
def finishClient (host : Hostent) : ClientProc Int := do
  update fun c ↦ { c with
    pollFds := fun
      | 0 => ⟨c.clientInfos.tcpSocket, POLLIN, (c.pollFds 0).revents⟩
      | 1 => ⟨c.clientInfos.udpServerSocket, POLLIN, (c.pollFds 1).revents⟩
      | i => c.pollFds i
    pollNfds := 2 }
  update (·.modifyClientInfos fun r ↦ { r with id := 0 })
  onPart UdtcpClient.clientInfos (fun r c ↦ { c with clientInfos := r }) do
    copyText UdtcpInfos.hostnameOffset host.name
    copyText UdtcpInfos.ipOffset (inetNtoa (← self).tcpAddr.sAddr)
  update fun c ↦ { c with
    connectCallback := false
    disconnectCallback := false
    receiveTcpCallback := false
    receiveUdpCallback := false
    buffer := .empty }
  let _ ← syscall (.close (← self).clientInfos.tcpSocket)
  return 0

/-- `create_client.c:210–230`. -/
def unblockSockets (host : Hostent) : ClientProc Int := do
  update (·.modifyClientInfos fun r ↦ { r with
    tcpPort := htons r.tcpAddr.sinPort
    udpServerPort := htons r.udpServerAddr.sinPort
    udpClientPort := htons r.udpClientAddr.sinPort })
  if (← udtcpSocketAddOption (← self).clientInfos.tcpSocket O_NONBLOCK) = -1 then
    abandon
  else if (← udtcpSocketAddOption (← self).clientInfos.udpServerSocket O_NONBLOCK) = -1 then
    abandon
  else
    finishClient host

/-- `create_client.c:138–208`. -/
def bindSockets (host : Hostent) (tcpPort udpServerPort udpClientPort : UInt16) :
    ClientProc Int := do
  update (·.modifyClientInfos fun r ↦ { r with tcpAddr := bindAddr host.addr tcpPort })
  match ← bindSocket (← self).clientInfos.tcpSocket (← self).clientInfos.tcpAddr with
  | none => abandon
  | some name =>
    update (·.modifyClientInfos fun r ↦ { r with
      tcpAddr := name
      udpServerAddr := bindAddr host.addr udpServerPort })
    match ← bindSocket (← self).clientInfos.udpServerSocket
        (← self).clientInfos.udpServerAddr with
    | none => abandon
    | some name =>
      update (·.modifyClientInfos fun r ↦ { r with
        udpServerAddr := name
        udpClientAddr := bindAddr host.addr udpClientPort })
      match ← bindSocket (← self).clientInfos.udpClientSocket
          (← self).clientInfos.udpClientAddr with
      | none => abandon
      | some name =>
        update (·.modifyClientInfos fun r ↦ { r with udpClientAddr := name })
        unblockSockets host

/-- `create_client.c:112–136`; the second `SO_REUSEPORT` on the UDP server socket stands in
the source. -/
def setReuse (host : Hostent) (tcpPort udpServerPort udpClientPort : UInt16) :
    ClientProc Int := do
  let r := (← self).clientInfos
  if ← setOptions .reuseAddr [r.tcpSocket, r.udpServerSocket, r.udpClientSocket] then
    if ← setOptions .reusePort [r.tcpSocket, r.udpServerSocket, r.udpServerSocket] then
      bindSockets host tcpPort udpServerPort udpClientPort
    else
      abandon
  else
    abandon

/-- The failure exits of `create_client.c:82–110`, after the sockets in `opened`. -/
def releaseClient (opened : List Fd) : ClientProc Int := do
  request (.mutexDestroy (← self).sendAddr)
  closeAll opened
  issue .freeClient
  return -1

/-- `create_client.c:78–110`. -/
def openSockets (host : Hostent) (tcpPort udpServerPort udpClientPort : UInt16) :
    ClientProc Int := do
  match ← syscall (.socket .stream) with
  | .error _ => releaseClient []
  | .ok tcp =>
    update (·.modifyClientInfos fun r ↦ { r with tcpSocket := tcp.val })
    match ← syscall (.socket .dgram) with
    | .error _ => releaseClient [tcp.val]
    | .ok udpServer =>
      update (·.modifyClientInfos fun r ↦ { r with udpServerSocket := udpServer.val })
      match ← syscall (.socket .dgram) with
      | .error _ => releaseClient [tcp.val, udpServer.val]
      | .ok udpClient =>
        update (·.modifyClientInfos fun r ↦ { r with udpClientSocket := udpClient.val })
        setReuse host tcpPort udpServerPort udpClientPort

end Client

/-- `udtcp_create_client`, `create_client.c:38–266`. The client is the object left behind
when the result is zero. -/
def udtcpCreateClient (hostname : List UInt8)
    (tcpPort udpServerPort udpClientPort : UInt16) : ClientProc Int := do
  let host ← request (.gethostbyname hostname)
  match (host : Option Hostent) with
  | none =>
    setErrno .ehostunreach
    return -1
  | some host =>
    match ← syscall .newClient with
    | .error _ => return -1
    | .ok addr =>
      update fun _ ↦ .zero addr
      let sendAddr := (← self).sendAddr
      issue (.storeSend sendAddr .zero)
      let initialized : Bool ← request (.mutexInit sendAddr)
      if initialized then
        Client.openSockets host tcpPort udpServerPort udpClientPort
      else
        issue .freeClient
        return -1

end Udtcp
