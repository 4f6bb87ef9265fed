import Udtcp.Client.Poll

/-!
# The receivers of the two roles

`receive_tcp` and `receive_udp` of a server and of a client are the common receivers on
its buffer; nothing else of the object changes.
-/

namespace Udtcp

open Interaction Routine

section

variable {m : Nat} {t t' : Thread (UdtcpServer m)} {tr : Trace posix} {n : Int}

/-- The callback a message of `infos[slot]` goes to. -/
def UdtcpServer.tcpDeliver (s : UdtcpServer m) (slot : Nat) : Option (List UInt8 → Callback) :=
  if s.receiveTcpCallback then some (.receiveTcp slot (s.infos slot)) else none

/-- What the server makes of the source of a datagram. -/
def UdtcpServer.udpRoute (s : UdtcpServer m) : Route := fun addr ↦
  (udtcpGetInfos s addr).map fun slot ↦
    if s.receiveUdpCallback then some (.receiveUdp slot (s.infos slot)) else none

/-- A run of `receive_tcp` of the server is one of the reception on its buffer. -/
theorem exec_receiveTcp {slot : Nat} :
    Exec (receiveTcp slot) t tr n t' ↔
      ∃ u, Exec (receiveTcpWith (t.self.infos slot).tcpSocket (t.self.tcpDeliver slot) cInt)
          ⟨t.errno, t.self.buffer⟩ tr n u ∧
        t' = ⟨u.errno, { t.self with buffer := u.self }⟩ := by
  simp only [receiveTcp, onBuffer, exec_self_bind, exec_onPart]
  rfl

/-- A run of `receive_udp` of the server is one of the reception on its buffer. -/
theorem exec_receiveUdp :
    Exec receiveUdp t tr n t' ↔
      ∃ u, Exec (receiveUdpWith t.self.serverInfos.udpServerSocket t.self.udpRoute cInt)
          ⟨t.errno, t.self.buffer⟩ tr n u ∧
        t' = ⟨u.errno, { t.self with buffer := u.self }⟩ := by
  simp only [receiveUdp, onBuffer, exec_self_bind, exec_onPart]
  rfl

end

namespace Client

variable {t t' : Thread UdtcpClient} {tr : Trace posix} {n : Int}

/-- The callback a message of the server goes to. -/
def tcpDeliver (c : UdtcpClient) : Option (List UInt8 → Callback) :=
  if c.receiveTcpCallback then some (.receiveTcp 1 c.serverInfos) else none

/-- The callback a datagram goes to. -/
def udpDeliver (c : UdtcpClient) : Option (List UInt8 → Callback) :=
  if c.receiveUdpCallback then some (.receiveUdp 1 c.serverInfos) else none

/-- A run of `receive_tcp` of the client is one of the reception on its buffer. -/
theorem exec_receiveTcp :
    Exec receiveTcp t tr n t' ↔
      ∃ u, Exec (receiveTcpWith t.self.serverInfos.tcpSocket (tcpDeliver t.self) fun _ ↦ 1)
          ⟨t.errno, t.self.buffer⟩ tr n u ∧
        t' = ⟨u.errno, { t.self with buffer := u.self }⟩ := by
  simp only [receiveTcp, onBuffer, exec_self_bind, exec_onPart]
  rfl

/-- A run of `receive_udp` of the client is one of the reception on its buffer. -/
theorem exec_receiveUdp :
    Exec receiveUdp t tr n t' ↔
      ∃ u, Exec (receiveUdpWith t.self.clientInfos.udpServerSocket
          (fun _ ↦ some (udpDeliver t.self)) fun _ ↦ 1) ⟨t.errno, t.self.buffer⟩ tr n u ∧
        t' = ⟨u.errno, { t.self with buffer := u.self }⟩ := by
  simp only [receiveUdp, onBuffer, exec_self_bind, exec_onPart]
  rfl

end Client

end Udtcp
