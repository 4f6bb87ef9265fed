import Udtcp.Bytes.Framing
import Udtcp.Posix.Call

/-!
# Sending

`udtcp/src/send.c`. The send structure is shared between threads, so it is read and
written through its address; the mutex in front of it is at the same address.
-/

namespace Udtcp

/-- A message to send; its size is a `uint32_t`. -/
abbrev Payload := {data : List UInt8 // data.length < 2 ^ 32}

/-- A message of one byte. -/
def Payload.single (b : UInt8) : Payload := ⟨[b], by simp⟩

section

variable {τ : Type}

/-- `send.c:38–53`: a larger buffer if the message needs one. -/
def growSend (addr : UInt64) (dataSize : Nat) : Proc τ Bool := do
  let s ← request (.loadSend addr)
  if s.bufferSize < dataSize then
    match ← syscall (.newBuffer ((dataSize + 4) % 2 ^ 32)) with
    | .error _ => return false
    | .ok block =>
      match s.buffer with
      | some old => issue (.freeBuffer old.ptr)
      | none => pure ()
      issue (.storeSend addr { s with
        buffer := some block.val
        bufferSize := dataSize
        sizeOffset := some 0
        payloadOffset := some 4 })
      return true
  else
    return true

/-- `buffer_copy`, `send.c:33–59`. -/
def bufferCopy (addr : UInt64) (data : Payload) : Proc τ Int := do
  if ← growSend addr data.val.length then
    let s ← request (.loadSend addr)
    match s.buffer, s.sizeOffset, s.payloadOffset with
    | some b, some sizeOffset, some payloadOffset =>
      let mem := b.mem.write sizeOffset (Bytes.leBytes 4 data.val.length)
      issue (.storeSend addr
        { s with buffer := some { b with mem := mem.write payloadOffset data.val } })
      return 0
    | _, _, _ => crash
  else
    return -1

/-- The common body of the two send functions; `emit` hands the frame to the kernel. -/
def sendWith (addr : UInt64) (data : Payload) (emit : List UInt8 → Proc τ Int) :
    Proc τ Int := do
  let locked : Bool ← request (.mutexLock addr)
  if locked then
    if (← bufferCopy addr data) ≠ 0 then
      issue (.mutexUnlock addr)
      return 0
    else
      let s ← request (.loadSend addr)
      let bytes := match s.buffer with
        | some b => b.mem.read 0 (data.val.length + 4)
        | none => []
      let ret ← emit bytes
      issue (.mutexUnlock addr)
      return ret
  else
    return 0

/-- `send` of a frame; the count, or `-1`. -/
def emitTcp (fd : Fd) (bytes : List UInt8) : Proc τ Int := do
  match ← syscall (.send fd bytes) with
  | .error _ => return -1
  | .ok n => return n.val

/-- `sendto` of a frame; the count, or `-1`. -/
def emitUdp (fd : Fd) (addr : SockaddrIn) (bytes : List UInt8) : Proc τ Int := do
  match ← syscall (.sendto fd bytes addr) with
  | .error _ => return -1
  | .ok n => return n.val

/-- `udtcp_send_tcp`, `send.c:62–80`. -/
def udtcpSendTcp (infos : UdtcpInfos) (data : Payload) : Proc τ Int :=
  sendWith infos.send data (emitTcp infos.tcpSocket)

/-- `udtcp_send_udp`, `send.c:83–103`. -/
def udtcpSendUdp (infos : UdtcpInfos) (data : Payload) : Proc τ Int :=
  sendWith infos.send data (emitUdp infos.udpServerSocket infos.udpServerAddr)

end

end Udtcp
