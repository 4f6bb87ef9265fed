import Udtcp.Server.Created

/-!
# The stages both creations go through

`create_server.c:84–201` and `create_client.c:78–208` open three sockets, and bind them to the host
one after the other, in the same way: only the object they work on differs, the way out of a failure
and what comes next.
-/

namespace Udtcp

open Interaction Routine

/-- The record an object keeps of its own sockets. -/
structure OwnInfos (τ : Type) where
  infos : τ → UdtcpInfos
  modify : (UdtcpInfos → UdtcpInfos) → τ → τ
  infos_modify : ∀ f s, infos (modify f s) = f (infos s)

/-- `server_infos`. -/
def serverOwn {m : Nat} : OwnInfos (UdtcpServer m) :=
  ⟨UdtcpServer.serverInfos, fun f s ↦ s.modifyServerInfos f,
    fun f s ↦ s.infos_modifyInfos_self 0 f⟩

/-- `client_infos`. -/
def clientOwn : OwnInfos UdtcpClient :=
  ⟨UdtcpClient.clientInfos, fun f c ↦ c.modifyClientInfos f, fun _ _ ↦ rfl⟩

section

variable {τ : Type}

/-- Open the three sockets, noting each with the function given for it. -/
def openingSockets (note₁ note₂ note₃ : Fd → τ → τ) (release : List Fd → Proc τ Int)
    (rest : Proc τ Int) : Proc τ Int := do
  match ← syscall (.socket .stream) with
  | .error _ => release []
  | .ok tcp =>
    update (note₁ tcp.val)
    match ← syscall (.socket .dgram) with
    | .error _ => release [tcp.val]
    | .ok udpServer =>
      update (note₂ udpServer.val)
      match ← syscall (.socket .dgram) with
      | .error _ => release [tcp.val, udpServer.val]
      | .ok udpClient =>
        update (note₃ udpClient.val)
        rest

/-- Bind the three sockets, reading each address back before the next one. -/
def bindingSockets (own : OwnInfos τ) (abandon rest : Proc τ Int) (host : Hostent)
    (tcpPort udpServerPort udpClientPort : UInt16) : Proc τ Int := do
  update (own.modify fun r ↦ { r with tcpAddr := bindAddr host.addr tcpPort })
  match ← bindSocket (own.infos (← self)).tcpSocket (own.infos (← self)).tcpAddr with
  | none => abandon
  | some name =>
    update (own.modify fun r ↦ { r with
      tcpAddr := name
      udpServerAddr := bindAddr host.addr udpServerPort })
    match ← bindSocket (own.infos (← self)).udpServerSocket
        (own.infos (← self)).udpServerAddr with
    | none => abandon
    | some name =>
      update (own.modify fun r ↦ { r with
        udpServerAddr := name
        udpClientAddr := bindAddr host.addr udpClientPort })
      match ← bindSocket (own.infos (← self)).udpClientSocket
          (own.infos (← self)).udpClientAddr with
      | none => abandon
      | some name =>
        update (own.modify fun r ↦ { r with udpClientAddr := name })
        rest

end

variable (host : Hostent) (p q r : UInt16)

/-- A server goes through the first stage, putting two of the sockets into its poll table. -/
theorem Server.openSockets_eq {m : Nat} :
    (openSockets host p q r : ServerProc m Int) = openingSockets
      (fun fd s ↦ { (s.modifyServerInfos fun r ↦ { r with tcpSocket := fd }).modifyPollFd 0
        (fun e ↦ { e with fd := fd, events := POLLIN }) with pollNfds := 1 })
      (fun fd s ↦ { (s.modifyServerInfos fun r ↦ { r with udpServerSocket := fd }).modifyPollFd 1
        (fun e ↦ { e with fd := fd, events := POLLIN }) with pollNfds := 2 })
      (fun fd s ↦ s.modifyServerInfos fun r ↦ { r with udpClientSocket := fd })
      releaseServer (bindSockets host p q r) := rfl

/-- A server goes through the second stage. -/
theorem Server.bindSockets_eq {m : Nat} : (bindSockets host p q r : ServerProc m Int) =
    bindingSockets serverOwn abandon listenServer host p q r := rfl

/-- A client goes through the first stage. -/
theorem Client.openSockets_eq : openSockets host p q r = openingSockets
    (fun fd c ↦ c.modifyClientInfos fun r ↦ { r with tcpSocket := fd })
    (fun fd c ↦ c.modifyClientInfos fun r ↦ { r with udpServerSocket := fd })
    (fun fd c ↦ c.modifyClientInfos fun r ↦ { r with udpClientSocket := fd })
    releaseClient (setReuse host p q r) := rfl

/-- A client goes through the second stage. -/
theorem Client.bindSockets_eq : bindSockets host p q r =
    bindingSockets clientOwn abandon (unblockSockets host) host p q r := rfl

end Udtcp
