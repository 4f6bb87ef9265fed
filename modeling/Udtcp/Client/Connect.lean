import Udtcp.Client.Poll

/-!
# Connecting a client

`udtcp/src/connect_client.c`.
-/

namespace Udtcp

/-- `AF_INET`. -/
def AF_INET : UInt16 := 2

/-- Results of a connection attempt, `enum udtcp_connect_e`. -/
inductive UdtcpConnect where
  | success
  | error
  | timeout
  | tooMany
  deriving DecidableEq, Repr

namespace Client

/-- `close_tcp_socket`, `connect_client.c:36–42`. -/
def closeTcpSocket : ClientProc Unit := do
  let _ ← syscall (.shutdown (← self).clientInfos.tcpSocket)
  let _ ← syscall (.close (← self).clientInfos.tcpSocket)
  return ()

/-- `connect_client.c:55–84`: options and address of the new socket. -/
def configureTcpSocket : ClientProc Int := do
  let fd := (← self).clientInfos.tcpSocket
  match ← syscall (.setsockopt fd .reuseAddr) with
  | .error _ => return -1
  | .ok _ =>
    match ← syscall (.setsockopt fd .reusePort) with
    | .error _ => return -1
    | .ok _ =>
      if (← udtcpSocketAddOption fd O_NONBLOCK) = -1 then
        return -1
      else
        match ← syscall (.bind fd (← self).clientInfos.tcpAddr) with
        | .error _ => return -1
        | .ok _ => return 0

/-- `create_tcp_socket`, `connect_client.c:44–86`. -/
def createTcpSocket : ClientProc Int := do
  match ← syscall (.socket .stream) with
  | .error _ =>
    update (·.setTcpSocket (-1))
    return -1
  | .ok fd =>
    update (·.setTcpSocket fd.val)
    configureTcpSocket

/-- `recv` of the server's record over `infos[1]`. The byte that may come in behind it lands
in the mutex of the send structure. -/
def writeRecord (bs : List UInt8) : ClientProc Unit := do
  update fun c ↦ { c with serverInfos := c.serverInfos.patch 0 bs }
  match bs[UdtcpInfos.sizeof]? with
  | none => pure ()
  | some b =>
    let addr := (← self).sendAddr
    let value ← request (.loadSend addr)
    issue (.storeSend addr { value with mutex := value.mutex.set 0 b UdtcpSend.mutex_pos })

/-- `initialize_connection`, `connect_client.c:88–155`. -/
def initializeConnection : ClientProc UdtcpConnect := do
  let fd := (← self).clientInfos.tcpSocket
  let ret ← pollIn fd
  if ret < 0 then
    return .error
  else if ret = 0 then
    setErrno .etimedout
    return .error
  else
    match ← syscall (.recv fd .record (UdtcpInfos.sizeof + 1)) with
    | .error _ => return .error
    | .ok bs =>
      writeRecord bs.val
      if bs.val.length = 0 then
        return .error
      else if bs.val.length ≠ UdtcpInfos.sizeof then
        if bs.val.length ≠ 1 then
          return .error
        else
          return .tooMany
      else
        match ← syscall (.send fd (← self).clientInfos.encode) with
        | .error _ => return .error
        | .ok n =>
          if n.val ≠ UdtcpInfos.sizeof then
            return .error
          else
            return .success

/-- `connect_client.c:193–237`: `some` result when the connection was not made. -/
def connectSocket (addr : SockaddrIn) (timeout : Int) : ClientProc (Option UdtcpConnect) := do
  let fd := (← self).clientInfos.tcpSocket
  match ← syscall (.connect fd addr) with
  | .ok _ => return none
  | .error _ =>
    if (← errno) = .einprogress then
      let reply ← syscall (.poll [⟨fd, POLLERR ||| POLLHUP ||| POLLIN ||| POLLOUT, 0⟩] timeout)
      match reply with
      | .error _ =>
        closeTcpSocket
        return some .error
      | .ok revents =>
        if pollCount reply = 0 then
          closeTcpSocket
          setErrno .etimedout
          return some .timeout
        else if reventsAt revents 0 &&& POLLHUP ≠ 0 then
          closeTcpSocket
          setErrno .econnrefused
          return some .error
        else
          return none
    else
      closeTcpSocket
      return some .error

/-- `connect_client.c:247–267`: the record of the server after the exchange. -/
def adoptServer (hostAddr : UInt32) : ClientProc Unit := do
  update fun c ↦ { c with serverInfos := { c.serverInfos with
    tcpAddr := { c.serverInfos.tcpAddr with sAddr := hostAddr }
    udpServerAddr := { c.serverInfos.udpServerAddr with sAddr := hostAddr }
    udpClientAddr := { c.serverInfos.udpClientAddr with sAddr := hostAddr }
    tcpSocket := c.clientInfos.tcpSocket
    udpServerSocket := c.clientInfos.udpClientSocket
    udpClientSocket := c.clientInfos.udpServerSocket
    send := c.sendAddr
    id := 0 } }
  onPart UdtcpClient.serverInfos (fun r c ↦ { c with serverInfos := r })
    (udtcpSetStringInfos (·.tcpAddr))
  let c ← self
  if c.connectCallback then
    issue (.callback (.connect 1 c.serverInfos))
  else
    pure ()

end Client

/-- `udtcp_connect_client`, `connect_client.c:157–270`. -/
def udtcpConnectClient (hostname : List UInt8) (tcpPort : UInt16) (timeout : Int) :
    ClientProc UdtcpConnect := do
  if (← Client.createTcpSocket) = -1 then
    Client.closeTcpSocket
    return .error
  else
    let host ← request (.gethostbyname hostname)
    match (host : Option Hostent) with
    | none => return .error
    | some host =>
      let addr : SockaddrIn := ⟨AF_INET, htons tcpPort, host.addr, .replicate 8 0⟩
      update fun c ↦ { c with serverInfos := { c.serverInfos with tcpAddr := addr } }
      match ← Client.connectSocket addr timeout with
      | some result => return result
      | none =>
        match ← Client.initializeConnection with
        | .success =>
          Client.adoptServer host.addr
          return .success
        | result =>
          Client.closeTcpSocket
          return result

end Udtcp
