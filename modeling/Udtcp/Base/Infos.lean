import Udtcp.Bytes.Codec

/-!
# Socket addresses, poll entries and the peer record

The data of `udtcp/include/udtcp.h:135–159` and the system structures it is made of, on a
little-endian machine with 64-bit pointers. The handshake sends and receives the record
`struct udtcp_infos_s` as its raw memory, so its layout is part of the program: 360 bytes,
`tcp_socket` at offset 280, `send` at offset 352 behind six bytes of padding.
-/

namespace Udtcp

open Bytes

/-- A C `int` used as a file descriptor; `-1` stands for no descriptor. -/
abbrev Fd := Int32

/-- Values of `errno` the library tells apart, and all others by number. -/
inductive Errno where
  | ewouldblock
  | eintr
  | einprogress
  | etimedout
  | econnrefused
  | ehostunreach
  | other (code : Nat)
  deriving DecidableEq, Repr

/-- `struct sockaddr_in`. Port and address are kept as the machine loads them, so both
hold a number in network order. -/
structure SockaddrIn where
  sinFamily : UInt16
  sinPort : UInt16
  sAddr : UInt32
  sinZero : Vector UInt8 8
  deriving DecidableEq, Repr

namespace SockaddrIn

/-- The all-zero address. -/
def zero : SockaddrIn := ⟨0, 0, 0, .replicate 8 0⟩

/-- The sixteen bytes of an address in memory. -/
def encode (a : SockaddrIn) : List UInt8 :=
  Codec.u16.encode a.sinFamily ++ (Codec.u16.encode a.sinPort ++ (Codec.u32.encode a.sAddr ++
    (Codec.block 8).encode a.sinZero))

/-- The address sixteen bytes stand for. -/
def decode (l : List UInt8) : SockaddrIn where
  sinFamily := Codec.u16.readAt l 0
  sinPort := Codec.u16.readAt l 2
  sAddr := Codec.u32.readAt l 4
  sinZero := (Codec.block 8).readAt l 8

/-- Layout of `struct sockaddr_in`. -/
def codec : Codec SockaddrIn where
  size := 16
  encode := encode
  decode := decode
  length_encode a := by simp [encode]
  decode_encode a := by
    simp [decode, encode, Codec.readAt_append_right, Codec.readAt_encode_append]

@[simp] private theorem size_codec : codec.size = 16 := rfl

end SockaddrIn

/-- `POLLIN`, the readiness the library asks for. -/
def POLLIN : UInt16 := 1

/-- `POLLOUT`. -/
def POLLOUT : UInt16 := 4

/-- `POLLERR`. -/
def POLLERR : UInt16 := 8

/-- `POLLHUP`. -/
def POLLHUP : UInt16 := 16

/-- `struct pollfd`. -/
structure PollFd where
  fd : Fd
  events : UInt16
  revents : UInt16
  deriving DecidableEq, Repr

/-- `struct udtcp_infos_s`, `udtcp/include/udtcp.h:144–159`, with its padding. The pointer
`send` is kept as the 64-bit address it is. -/
structure UdtcpInfos where
  id : UInt64
  hostname : Vector UInt8 256
  ip : Vector UInt8 16
  tcpSocket : Fd
  udpServerSocket : Fd
  udpClientSocket : Fd
  tcpAddr : SockaddrIn
  udpServerAddr : SockaddrIn
  udpClientAddr : SockaddrIn
  tcpPort : UInt16
  udpServerPort : UInt16
  udpClientPort : UInt16
  padding : Vector UInt8 6
  send : UInt64
  deriving DecidableEq, Repr

namespace UdtcpInfos

/-- Equality of all fields determines the record. -/
@[ext] theorem ext' {p q : UdtcpInfos} (h₁ : p.id = q.id) (h₂ : p.hostname = q.hostname)
    (h₃ : p.ip = q.ip) (h₄ : p.tcpSocket = q.tcpSocket)
    (h₅ : p.udpServerSocket = q.udpServerSocket) (h₆ : p.udpClientSocket = q.udpClientSocket)
    (h₇ : p.tcpAddr = q.tcpAddr) (h₈ : p.udpServerAddr = q.udpServerAddr)
    (h₉ : p.udpClientAddr = q.udpClientAddr) (h₁₀ : p.tcpPort = q.tcpPort)
    (h₁₁ : p.udpServerPort = q.udpServerPort) (h₁₂ : p.udpClientPort = q.udpClientPort)
    (h₁₃ : p.padding = q.padding) (h₁₄ : p.send = q.send) : p = q := by
  cases p
  cases q
  simp_all

/-- `sizeof(udtcp_infos)`. -/
def sizeof : Nat := 360

/-- Offset of `hostname` in the record. -/
def hostnameOffset : Nat := 8

/-- Offset of `ip` in the record. -/
def ipOffset : Nat := 264

/-- Offset of `tcp_socket` in the record. -/
def tcpSocketOffset : Nat := 280

/-- A record cleared by `memset`. -/
def zero : UdtcpInfos where
  id := 0
  hostname := .replicate 256 0
  ip := .replicate 16 0
  tcpSocket := 0
  udpServerSocket := 0
  udpClientSocket := 0
  tcpAddr := .zero
  udpServerAddr := .zero
  udpClientAddr := .zero
  tcpPort := 0
  udpServerPort := 0
  udpClientPort := 0
  padding := .replicate 6 0
  send := 0

/-- The bytes of the record in memory. -/
def encode (r : UdtcpInfos) : List UInt8 :=
  Codec.u64.encode r.id ++ ((Codec.block 256).encode r.hostname ++ ((Codec.block 16).encode r.ip ++
  (Codec.i32.encode r.tcpSocket ++ (Codec.i32.encode r.udpServerSocket ++
  (Codec.i32.encode r.udpClientSocket ++ (SockaddrIn.codec.encode r.tcpAddr ++
  (SockaddrIn.codec.encode r.udpServerAddr ++ (SockaddrIn.codec.encode r.udpClientAddr ++
  (Codec.u16.encode r.tcpPort ++ (Codec.u16.encode r.udpServerPort ++
  (Codec.u16.encode r.udpClientPort ++ ((Codec.block 6).encode r.padding ++
  Codec.u64.encode r.send))))))))))))

/-- The record the first 360 bytes of a memory image stand for. -/
def decode (l : List UInt8) : UdtcpInfos where
  id := Codec.u64.readAt l 0
  hostname := (Codec.block 256).readAt l 8
  ip := (Codec.block 16).readAt l 264
  tcpSocket := Codec.i32.readAt l 280
  udpServerSocket := Codec.i32.readAt l 284
  udpClientSocket := Codec.i32.readAt l 288
  tcpAddr := SockaddrIn.codec.readAt l 292
  udpServerAddr := SockaddrIn.codec.readAt l 308
  udpClientAddr := SockaddrIn.codec.readAt l 324
  tcpPort := Codec.u16.readAt l 340
  udpServerPort := Codec.u16.readAt l 342
  udpClientPort := Codec.u16.readAt l 344
  padding := (Codec.block 6).readAt l 346
  send := Codec.u64.readAt l 352

/-- Layout of `struct udtcp_infos_s`. -/
def codec : Codec UdtcpInfos where
  size := sizeof
  encode := encode
  decode := decode
  length_encode r := by simp [encode, sizeof]
  decode_encode r := by
    simp [decode, encode, Codec.readAt_append_right, Codec.readAt_encode_append]

/-- The encoding of a record takes 360 bytes. -/
@[simp] theorem length_encode (r : UdtcpInfos) : r.encode.length = 360 := codec.length_encode r

/-- A whole record fits into the room asked for it. -/
theorem length_le_of_record {bs : List UInt8} (h : bs.length = sizeof) : bs.length ≤ sizeof + 1 :=
  Nat.le_succ_of_le (Nat.le_of_eq h)

/-- A record that was encoded is decoded to itself. -/
@[simp] theorem decode_encode (r : UdtcpInfos) : decode r.encode = r := codec.decode_encode r

/-- The record after the bytes from offset `off` on were overwritten by `bs`, as far as
they lie inside it. -/
def patch (r : UdtcpInfos) (off : Nat) (bs : List UInt8) : UdtcpInfos :=
  decode (Bytes.patch r.encode off (bs.take (sizeof - off)))

/-- Writing nothing changes nothing. -/
@[simp] theorem patch_nil (r : UdtcpInfos) (off : Nat) : r.patch off [] = r := by
  simp [patch]

section

variable {α : Type} {c : Codec α} {f : UdtcpInfos → α} {o : Nat}

/-- Received over a record, `bs` keeps a field of it exactly if the bytes it has at the place of the
field are the first ones of its value. -/
theorem field_patch_eq_iff (hc : c.Exact) (hf : ∀ l, f (decode l) = c.readAt l o)
    (ho : o + c.size ≤ sizeof) (r : UdtcpInfos) (bs : List UInt8) :
    f (r.patch 0 bs) = f r ↔ slice bs o c.size <+: c.encode (f r) := by
  have hold : c.readAt r.encode o = f r := by rw [← hf, decode_encode]
  have hwindow : slice (bs.take sizeof) o c.size = slice bs o c.size := by
    rw [slice, slice, List.drop_take, List.take_take, Nat.min_eq_left (by omega)]
  have hb : (bs.take sizeof).length ≤ r.encode.length := by
    rw [List.length_take, length_encode]
    exact Nat.min_le_left _ _
  have h := Codec.readAt_patch_zero_eq_iff hc (o := o) hb (by rw [length_encode]; exact ho)
  rw [hold, hwindow] at h
  rw [patch, hf]
  exact h

/-- A text written over `hostname` keeps a field behind it exactly if what it has at the place of
the field are the first bytes of its value. -/
theorem field_patch_hostname_eq_iff (hc : c.Exact) (hf : ∀ l, f (decode l) = c.readAt l o)
    (ho : o + c.size ≤ sizeof) (hname : hostnameOffset ≤ o) (r : UdtcpInfos) (text : List UInt8) :
    f (r.patch hostnameOffset text) = f r ↔
      slice text (o - hostnameOffset) c.size <+: c.encode (f r) := by
  have hid : (r.encode.take hostnameOffset).length = hostnameOffset := by
    rw [List.length_take, length_encode]
    rfl
  have hpatch : r.patch hostnameOffset text = r.patch 0 (r.encode.take hostnameOffset ++ text) := by
    have htake : (r.encode.take hostnameOffset ++ text).take sizeof =
        r.encode.take hostnameOffset ++ text.take (sizeof - hostnameOffset) := by
      rw [List.take_append, hid, List.take_of_length_le (by rw [hid]; decide)]
    rw [patch, patch, Nat.sub_zero, htake]
    simp only [Bytes.patch, List.take_zero, List.nil_append, List.length_append, hid,
      Nat.zero_add, List.append_assoc]
  have hslice : slice (r.encode.take hostnameOffset ++ text) o c.size =
      slice text (o - (r.encode.take hostnameOffset).length) c.size :=
    slice_append_right (by rw [hid]; exact hname)
  rw [hpatch, field_patch_eq_iff hc hf ho, hslice, hid]

end

/-- Received over a record, `bs` keeps its descriptor exactly if the bytes it has at the place of
`tcp_socket` are the first ones of that descriptor. -/
theorem tcpSocket_patch_eq_iff (r : UdtcpInfos) (bs : List UInt8) :
    (r.patch 0 bs).tcpSocket = r.tcpSocket ↔
      slice bs tcpSocketOffset 4 <+: Codec.i32.encode r.tcpSocket :=
  field_patch_eq_iff Codec.exact_i32 (fun _ ↦ rfl) (by decide) r bs

/-- A text written over `hostname` keeps the descriptor of a record exactly if what it has at the
place of `tcp_socket` are the first bytes of that descriptor. -/
theorem tcpSocket_patch_hostname_eq_iff (r : UdtcpInfos) (text : List UInt8) :
    (r.patch hostnameOffset text).tcpSocket = r.tcpSocket ↔
      slice text (tcpSocketOffset - hostnameOffset) 4 <+: Codec.i32.encode r.tcpSocket :=
  field_patch_hostname_eq_iff Codec.exact_i32 (fun _ ↦ rfl) (by decide) (by decide) r text

/-- Two records that differ at most in the texts for humans, `hostname` and `ip`. -/
structure SameLink (r r' : UdtcpInfos) : Prop where
  id : r'.id = r.id
  tcpSocket : r'.tcpSocket = r.tcpSocket
  udpServerSocket : r'.udpServerSocket = r.udpServerSocket
  udpClientSocket : r'.udpClientSocket = r.udpClientSocket
  tcpAddr : r'.tcpAddr = r.tcpAddr
  udpServerAddr : r'.udpServerAddr = r.udpServerAddr
  udpClientAddr : r'.udpClientAddr = r.udpClientAddr
  send : r'.send = r.send

section

variable (r : UdtcpInfos) {off : Nat} {bs : List UInt8}

/-- Text written between `id` and `tcp_socket` leaves a field outside of it alone. -/
theorem field_patch (h : 8 ≤ off) (hb : off + bs.length ≤ 280) {α : Type} (f : UdtcpInfos → α)
    (c : Bytes.Codec α) (o : Nat) (hf : ∀ l, f (decode l) = c.readAt l o)
    (ho : o + c.size ≤ 8 ∨ 280 ≤ o) : f (r.patch off bs) = f r := by
  have htake : bs.take (sizeof - off) = bs := by
    apply List.take_of_length_le
    simp only [sizeof]
    omega
  have hl : off ≤ r.encode.length := by
    rw [length_encode]
    omega
  rw [patch, htake, hf]
  rcases ho with ho | ho
  · rw [c.readAt_patch_before (ho.trans h) hl, ← hf, decode_encode]
  · rw [c.readAt_patch_after (by omega) hl, ← hf, decode_encode]

/-- Text written between `id` and `tcp_socket` leaves the link alone. -/
theorem sameLink_patch (h : 8 ≤ off) (hb : off + bs.length ≤ 280) :
    r.SameLink (r.patch off bs) where
  id := r.field_patch h hb (·.id) .u64 0 (fun _ ↦ rfl) (by decide)
  tcpSocket := r.field_patch h hb (·.tcpSocket) .i32 280 (fun _ ↦ rfl) (by decide)
  udpServerSocket := r.field_patch h hb (·.udpServerSocket) .i32 284 (fun _ ↦ rfl) (by decide)
  udpClientSocket := r.field_patch h hb (·.udpClientSocket) .i32 288 (fun _ ↦ rfl) (by decide)
  tcpAddr := r.field_patch h hb (·.tcpAddr) SockaddrIn.codec 292 (fun _ ↦ rfl) (by decide)
  udpServerAddr :=
    r.field_patch h hb (·.udpServerAddr) SockaddrIn.codec 308 (fun _ ↦ rfl) (by decide)
  udpClientAddr :=
    r.field_patch h hb (·.udpClientAddr) SockaddrIn.codec 324 (fun _ ↦ rfl) (by decide)
  send := r.field_patch h hb (·.send) .u64 352 (fun _ ↦ rfl) (by decide)

end

/-- A record has its own links. -/
theorem SameLink.refl (r : UdtcpInfos) : SameLink r r := ⟨rfl, rfl, rfl, rfl, rfl, rfl, rfl, rfl⟩

/-- Links are kept step by step. -/
theorem SameLink.trans {r r' r'' : UdtcpInfos} (h : SameLink r r') (h' : SameLink r' r'') :
    SameLink r r'' where
  id := h'.id.trans h.id
  tcpSocket := h'.tcpSocket.trans h.tcpSocket
  udpServerSocket := h'.udpServerSocket.trans h.udpServerSocket
  udpClientSocket := h'.udpClientSocket.trans h.udpClientSocket
  tcpAddr := h'.tcpAddr.trans h.tcpAddr
  udpServerAddr := h'.udpServerAddr.trans h.udpServerAddr
  udpClientAddr := h'.udpClientAddr.trans h.udpClientAddr
  send := h'.send.trans h.send

end UdtcpInfos

end Udtcp
