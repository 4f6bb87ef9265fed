import Udtcp.Bytes.Slice

/-!
# Byte memory behind a pointer

The bytes from an address on, as a total function of the offset: reading a window,
overwriting a window, and how the two meet.
-/

/-- The bytes from some address on. -/
abbrev Memory := Nat → UInt8

namespace Memory

/-- Overwrite the bytes from offset `off` on by `bs`. -/
def write (m : Memory) (off : Nat) (bs : List UInt8) : Memory := fun i ↦
  if off ≤ i then (bs[i - off]?).getD (m i) else m i

/-- The `len` bytes from offset `off` on. -/
def read (m : Memory) (off len : Nat) : List UInt8 := (List.range len).map fun i ↦ m (off + i)

@[simp] private theorem length_read (m : Memory) (off len : Nat) :
    (m.read off len).length = len := by
  simp [read]

private theorem read_append (m : Memory) (off n k : Nat) :
    m.read off (n + k) = m.read off n ++ m.read (off + n) k := by
  simp only [read, List.range_add, List.map_append, List.map_map]
  congr 1
  apply List.map_congr_left
  intro i _
  simp [Nat.add_assoc]

/-- The bytes just written are read back. -/
theorem read_write_self (m : Memory) (off : Nat) (bs : List UInt8) :
    (m.write off bs).read off bs.length = bs := by
  apply List.ext_getElem
  · simp
  · intro i h₁ h₂
    simp [read, write, h₂]

/-- Bytes below a write are not changed by it. -/
theorem read_write_below (m : Memory) {off start len : Nat} (bs : List UInt8)
    (h : start + len ≤ off) : (m.write off bs).read start len = m.read start len := by
  simp only [read]
  apply List.map_congr_left
  intro i hi
  have hn : ¬ off ≤ start + i := by
    have := List.mem_range.mp hi
    omega
  simp [write, hn]

/-- Appending a chunk behind what was read so far. -/
theorem read_write_append (m : Memory) (off : Nat) (bs : List UInt8) :
    (m.write off bs).read 0 (off + bs.length) = m.read 0 off ++ bs := by
  rw [read_append, read_write_below m bs (by omega), Nat.zero_add, read_write_self]

/-- A window of a chunk written at the start is the window of the chunk. -/
theorem read_write_zero (m : Memory) (bs : List UInt8) (off len : Nat)
    (h : off + len ≤ bs.length) : (m.write 0 bs).read off len = Bytes.slice bs off len := by
  apply List.ext_getElem
  · rw [length_read, Bytes.length_slice h]
  · intro i h₁ h₂
    have hi : off + i < bs.length := by
      rw [length_read] at h₁
      omega
    simp [read, write, Bytes.slice, hi]

end Memory
