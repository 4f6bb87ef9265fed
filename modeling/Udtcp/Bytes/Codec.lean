import Udtcp.Bytes.Slice

/-!
# Fixed-width codecs

A codec fixes how a value lies in memory: its width, its bytes, and the value read back
from them. Decoding is total, as reading memory is.
-/

namespace Bytes

/-- How the values of `α` lie in memory, in exactly `size` bytes. -/
structure Codec (α : Type) where
  size : Nat
  encode : α → List UInt8
  decode : List UInt8 → α
  length_encode (x : α) : (encode x).length = size
  decode_encode (x : α) : decode (encode x) = x

namespace Codec

variable {α : Type}

attribute [simp] length_encode decode_encode

/-- Read a value at an offset of a memory image. -/
def readAt (c : Codec α) (l : List UInt8) (off : Nat) : α := c.decode (slice l off c.size)

private theorem readAt_append_left (c : Codec α) {a b : List UInt8} {off : Nat}
    (h : off + c.size ≤ a.length) : c.readAt (a ++ b) off = c.readAt a off := by
  rw [readAt, slice_append_left h, readAt]

/-- A value behind the first part of a list is read from the second. -/
theorem readAt_append_right (c : Codec α) {a b : List UInt8} {off : Nat}
    (h : a.length ≤ off) : c.readAt (a ++ b) off = c.readAt b (off - a.length) := by
  rw [readAt, slice_append_right h, readAt]

@[simp] private theorem readAt_encode (c : Codec α) (x : α) : c.readAt (c.encode x) 0 = x := by
  rw [readAt, ← c.length_encode x, slice_self, c.decode_encode]

/-- A value in front of others is read back. -/
theorem readAt_encode_append (c : Codec α) (x : α) (b : List UInt8) :
    c.readAt (c.encode x ++ b) 0 = x := by
  rw [readAt_append_left c (by simp), readAt_encode]

/-- A patch leaves the values before it alone. -/
theorem readAt_patch_before (c : Codec α) {l bs : List UInt8} {off o : Nat}
    (h : o + c.size ≤ off) (hl : off ≤ l.length) :
    c.readAt (patch l off bs) o = c.readAt l o := by
  rw [readAt, slice_patch_before h hl, readAt]

/-- A patch leaves the values behind it alone. -/
theorem readAt_patch_after (c : Codec α) {l bs : List UInt8} {off o : Nat}
    (h : off + bs.length ≤ o) (hl : off ≤ l.length) :
    c.readAt (patch l off bs) o = c.readAt l o := by
  rw [readAt, slice_patch_after h hl, readAt]

/-- Every memory image of the right width is the encoding of a value. -/
def Exact (c : Codec α) : Prop := ∀ l, l.length = c.size → c.encode (c.decode l) = l

/-- Overwriting an image from its start keeps the value at `o` exactly if what it writes there are
the first bytes of that value. -/
theorem readAt_patch_zero_eq_iff {c : Codec α} (hc : c.Exact) {l bs : List UInt8} {o : Nat}
    (hb : bs.length ≤ l.length) (hl : o + c.size ≤ l.length) :
    c.readAt (patch l 0 bs) o = c.readAt l o ↔ slice bs o c.size <+: c.encode (c.readAt l o) := by
  have hold : c.encode (c.readAt l o) = slice l o c.size := hc _ (length_slice hl)
  have hnew : c.encode (c.readAt (patch l 0 bs) o) = slice (patch l 0 bs) o c.size := by
    apply hc
    apply length_slice
    rw [length_patch (by omega)]
    exact hl
  have hwindow := slice_patch_zero l bs o c.size
  constructor
  · intro h
    rw [← h, hnew, hwindow]
    exact List.prefix_append _ _
  · intro h
    rw [hold] at h
    obtain ⟨rest, hrest⟩ := h
    rw [← hrest, List.drop_left, hrest, ← hold] at hwindow
    rw [readAt, hwindow, c.decode_encode]

/-- Little-endian 16-bit words. -/
def u16 : Codec UInt16 where
  size := 2
  encode x := leBytes 2 x.toNat
  decode l := UInt16.ofNat (leNat l)
  length_encode x := length_leBytes 2 x.toNat
  decode_encode x := by
    rw [leNat_leBytes_of_lt x.toNat_lt, UInt16.ofNat_toNat]

/-- Little-endian 32-bit words. -/
def u32 : Codec UInt32 where
  size := 4
  encode x := leBytes 4 x.toNat
  decode l := UInt32.ofNat (leNat l)
  length_encode x := length_leBytes 4 x.toNat
  decode_encode x := by
    rw [leNat_leBytes_of_lt x.toNat_lt, UInt32.ofNat_toNat]

/-- Little-endian 64-bit words. -/
def u64 : Codec UInt64 where
  size := 8
  encode x := leBytes 8 x.toNat
  decode l := UInt64.ofNat (leNat l)
  length_encode x := length_leBytes 8 x.toNat
  decode_encode x := by
    rw [leNat_leBytes_of_lt x.toNat_lt, UInt64.ofNat_toNat]

/-- Little-endian 32-bit integers in two's complement. -/
def i32 : Codec Int32 where
  size := 4
  encode x := u32.encode x.toUInt32
  decode l := (u32.decode l).toInt32
  length_encode x := u32.length_encode x.toUInt32
  decode_encode x := by rw [u32.decode_encode, Int32.toInt32_toUInt32]

/-- Every pattern of four bytes is a number in its own encoding. -/
theorem exact_i32 : i32.Exact := by
  intro l hl
  have hlt := leNat_lt l
  rw [show l.length = 4 from hl] at hlt
  change leBytes 4 (UInt32.ofNat (leNat l)).toInt32.toUInt32.toNat = l
  rw [UInt32.toUInt32_toInt32, UInt32.toNat_ofNat_of_lt' hlt]
  simpa [show l.length = 4 from hl] using leBytes_leNat l

/-- Every pattern of two bytes is a number in its own encoding. -/
theorem exact_u16 : u16.Exact := by
  intro l hl
  have hlt := leNat_lt l
  rw [show l.length = 2 from hl] at hlt
  change leBytes 2 (UInt16.ofNat (leNat l)).toNat = l
  rw [UInt16.toNat_ofNat_of_lt' hlt]
  simpa [show l.length = 2 from hl] using leBytes_leNat l

/-- Every pattern of eight bytes is a number in its own encoding. -/
theorem exact_u64 : u64.Exact := by
  intro l hl
  have hlt := leNat_lt l
  rw [show l.length = 8 from hl] at hlt
  change leBytes 8 (UInt64.ofNat (leNat l)).toNat = l
  rw [UInt64.toNat_ofNat_of_lt' hlt]
  simpa [show l.length = 8 from hl] using leBytes_leNat l

/-- The first `n` bytes of a list, zeros where it is shorter. -/
def toVector (n : Nat) (l : List UInt8) : Vector UInt8 n := .ofFn fun i ↦ (l[i.val]?).getD 0

/-- Blocks of `n` bytes. -/
def block (n : Nat) : Codec (Vector UInt8 n) where
  size := n
  encode v := v.toList
  decode := toVector n
  length_encode v := by simp
  decode_encode v := by
    ext i hi
    simp [toVector]

@[simp] private theorem size_u16 : u16.size = 2 := rfl
@[simp] private theorem size_u32 : u32.size = 4 := rfl
@[simp] private theorem size_u64 : u64.size = 8 := rfl
@[simp] private theorem size_i32 : i32.size = 4 := rfl
@[simp] private theorem size_block (n : Nat) : (block n).size = n := rfl

end Codec

end Bytes
