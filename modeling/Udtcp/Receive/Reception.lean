import Udtcp.Posix.Call


/-!
# TCP and UDP reception

The two receivers of `udtcp/src/server_poll.c` and `udtcp/src/client_poll.c` over the one
buffer they share. Both roles run the same steps; they differ in the value reported on
success and, for datagrams, in how the sender is looked up. The `EINTR` test of
`client_poll.c:102` chooses between two equal returns and is not kept.
-/

namespace Udtcp

open Interaction

/-- `buffer_data` and `buffer_size` of a server or a client. -/
structure ReceiveBuffer where
  bufferData : Option Block
  bufferSize : Nat

namespace ReceiveBuffer

/-- The buffer before the first reception. -/
def empty : ReceiveBuffer := ⟨none, 0⟩

/-- Bytes really allocated for the buffer. -/
def allocated (b : ReceiveBuffer) : Nat := (b.bufferData.map Block.cap).getD 0

/-- The buffer from `offset` on, as the destination of a reception. -/
def target (b : ReceiveBuffer) (offset : Nat) : Target :=
  .buffer (b.bufferData.map Block.ptr) b.allocated offset

/-- The buffer after `bs` was written at `offset`. What lies behind the block is written like the
block itself; where a message is said to arrive, the buffer is `Backed` by its block. -/
def fill (b : ReceiveBuffer) (offset : Nat) (bs : List UInt8) : ReceiveBuffer :=
  { b with bufferData := b.bufferData.map fun blk ↦ { blk with mem := blk.mem.write offset bs } }

/-- The `len` bytes of the buffer from `offset` on. -/
def bytes (b : ReceiveBuffer) (offset len : Nat) : List UInt8 :=
  match b.bufferData with
  | some blk => blk.mem.read offset len
  | none => []

end ReceiveBuffer

/-- Conversion of an unsigned value to a C `int`. -/
def cInt (n : Nat) : Int := (n : Int).bmod (2 ^ 32)

/-- `ret_poll` for the answer to a poll: `-1`, or the number of entries with events. -/
def pollCount {fds : List PollFd} {timeout : Int} :
    Except Errno (SysCall.poll fds timeout).Result → Int
  | .error _ => -1
  | .ok revents => (revents.toList.filter (· ≠ 0)).length

/-- The `revents` a poll reports for entry `i`. -/
def reventsAt {fds : List PollFd} {timeout : Int} (revents : (SysCall.poll fds timeout).Result)
    (i : Nat) : UInt16 :=
  ((show Vector UInt16 fds.length from revents)[i]?).getD 0

/-- Wait for input on a single socket, without a timeout. -/
def pollIn {τ : Type} (fd : Fd) : Proc τ Int := do
  return pollCount (← syscall (.poll [⟨fd, POLLIN, 0⟩] (-1)))

/-- The reallocation of `server_poll.c:227–243` and `:352–371`; the parameter of
`udtcp_new_buffer` is a `uint32_t`. -/
def growBuffer (need : Nat) : Proc ReceiveBuffer Bool := do
  if (← self).bufferSize < need then
    match ← syscall (.newBuffer (need % 2 ^ 32)) with
    | .error _ => return false
    | .ok block =>
      match (← self).bufferData with
      | some old => issue (.freeBuffer old.ptr)
      | none => pure ()
      update fun _ ↦ ⟨some block.val, need⟩
      return true
  else
    return true

/-- `recv` into the buffer; the count, or `-1`. -/
def recvBuffer (fd : Fd) (offset len : Nat) : Proc ReceiveBuffer Int := do
  match ← syscall (.recv fd ((← self).target offset) len) with
  | .error _ => return -1
  | .ok bs =>
    update (·.fill offset bs.val)
    return bs.val.length

/-- The loop of `server_poll.c:259–288`. `none` when the message is complete, else the value
to return. Every round reads a byte, so `rounds` is never used up before that. -/
def reassemble (fd : Fd) (dataSize : Nat) : Nat → Nat → Proc ReceiveBuffer (Option Int)
  | 0, _ => return none
  | rounds + 1, bufferSize => do
    if bufferSize = dataSize then
      return none
    else if (← pollIn fd) ≤ 0 then
      return some (-1)
    else
      let ret ← recvBuffer fd bufferSize (dataSize - bufferSize)
      if ret < 0 then
        return some (-1)
      else if ret = 0 then
        return some 0
      else
        reassemble fd dataSize rounds (bufferSize + ret.toNat)

/-- `server_poll.c:245–298`, from the first reception of the payload on. -/
def receivePayload (fd : Fd) (deliver : Option (List UInt8 → Callback)) (success : Nat → Int)
    (dataSize : Nat) : Proc ReceiveBuffer Int := do
  let ret ← recvBuffer fd 0 dataSize
  if ret < 0 then
    return -1
  else if ret = 0 then
    return 0
  else
    match ← reassemble fd dataSize dataSize ret.toNat with
    | some r => return r
    | none =>
      match deliver with
      | some f => issue (.callback (f ((← self).bytes 0 dataSize)))
      | none => pure ()
      return success dataSize

/-- `receive_tcp`, `server_poll.c:197–299` and `client_poll.c:34–147`, on socket `fd` with
the callback `deliver` if one is defined, reporting `success` of the size. -/
def receiveTcpWith (fd : Fd) (deliver : Option (List UInt8 → Callback)) (success : Nat → Int) :
    Proc ReceiveBuffer Int := do
  match ← syscall (.recv fd .word 4) with
  | .error _ => return -1
  | .ok size =>
    if size.val.length = 0 then
      return 0
    else if size.val.length ≠ 4 then
      return -1
    else
      let dataSize := Bytes.leNat size.val
      if ← growBuffer dataSize then
        receivePayload fd deliver success dataSize
      else
        return -1

/-- What a receiver makes of the source of a datagram: refuse it, or hand the payload to a
callback if one is defined. -/
abbrev Route := SockaddrIn → Option (Option (List UInt8 → Callback))

/-- `server_poll.c:373–410`: take the datagram from the queue, check it and deliver it. The
counts pass through an `int` and are compared as 64-bit unsigned numbers. -/
def takeDatagram (fd : Fd) (route : Route) (success : Nat → Int) (dataSize : Nat) :
    Proc ReceiveBuffer Int := do
  match ← syscall (.recvfrom fd ((← self).target 0) (4 + dataSize) false) with
  | .error _ => return -1
  | .ok (bs, addr) =>
    update (·.fill 0 bs.val)
    let ret := cInt bs.val.length
    if ret < 0 then
      return -1
    else if ret = 0 then
      return 0
    else if (ret - 4) % 2 ^ 64 ≠ dataSize then
      return -1
    else
      match route addr with
      | none => return -1
      | some deliver =>
        match deliver with
        | some f => issue (.callback (f ((← self).bytes 4 dataSize)))
        | none => pure ()
        return success dataSize

/-- `receive_udp`, `server_poll.c:320–411` and `client_poll.c:149–243`, on socket `fd`. -/
def receiveUdpWith (fd : Fd) (route : Route) (success : Nat → Int) :
    Proc ReceiveBuffer Int := do
  match ← syscall (.recvfrom fd .word 4 true) with
  | .error _ => return -1
  | .ok (size, _) =>
    if size.val.length = 0 then
      return 0
    else if size.val.length ≠ 4 then
      return -1
    else
      let dataSize := Bytes.leNat size.val
      if ← growBuffer (4 + dataSize) then
        takeDatagram fd route success dataSize
      else
        return -1

end Udtcp
