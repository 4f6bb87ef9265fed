import Mathlib

/-!
# Little-endian numbers, slices and patches of byte lists

Fixed-width numbers as byte lists, least significant byte first, and the two ways a
memory image is used: reading a window of it, and overwriting a window from some offset.
-/

namespace Bytes

/-- The `width` low bytes of `n`, least significant first. -/
def leBytes : Nat → Nat → List UInt8
  | 0, _ => []
  | width + 1, n => UInt8.ofNat n :: leBytes width (n / 256)

/-- The number a byte list stands for, least significant byte first. -/
def leNat : List UInt8 → Nat
  | [] => 0
  | b :: bs => b.toNat + 256 * leNat bs

/-- A number is written in as many bytes as asked for. -/
@[simp] theorem length_leBytes (width n : Nat) : (leBytes width n).length = width := by
  induction width generalizing n with
  | zero => rfl
  | succ width ih => simp [leBytes, ih]

private theorem leNat_leBytes (width n : Nat) : leNat (leBytes width n) = n % 256 ^ width := by
  induction width generalizing n with
  | zero => simp [leBytes, leNat, Nat.mod_one]
  | succ width ih =>
    simp only [leBytes, leNat, ih]
    calc (UInt8.ofNat n).toNat + 256 * (n / 256 % 256 ^ width)
        = n % (256 * 256 ^ width) := Nat.mod_mul.symm
      _ = n % 256 ^ (width + 1) := by rw [Nat.pow_succ']

/-- A number that fits is read back. -/
theorem leNat_leBytes_of_lt {width n : Nat} (h : n < 256 ^ width) :
    leNat (leBytes width n) = n := by
  rw [leNat_leBytes, Nat.mod_eq_of_lt h]

/-- A number read from bytes is below the power of 256 they stand for. -/
theorem leNat_lt (bs : List UInt8) : leNat bs < 256 ^ bs.length := by
  induction bs with
  | nil => simp [leNat]
  | cons b bs ih =>
    have hb := b.toNat_lt
    simp only [leNat, List.length_cons, Nat.pow_succ']
    omega

/-- A byte list is determined by its length and its number. -/
theorem leBytes_leNat (bs : List UInt8) : leBytes bs.length (leNat bs) = bs := by
  induction bs with
  | nil => rfl
  | cons b bs ih =>
    have hb := b.toNat_lt
    simp only [leNat, List.length_cons, leBytes]
    have hd : (b.toNat + 256 * leNat bs) / 256 = leNat bs := by omega
    rw [hd, ih]
    congr 1
    apply UInt8.toNat_inj.mp
    simp only [UInt8.toNat_ofNat']
    omega

/-- The window of `len` bytes from `off`. -/
def slice (l : List UInt8) (off len : Nat) : List UInt8 := (l.drop off).take len

/-- Overwrite the bytes from `off` on by `bs`. -/
def patch (l : List UInt8) (off : Nat) (bs : List UInt8) : List UInt8 :=
  l.take off ++ (bs ++ l.drop (off + bs.length))

/-- A patch inside a list keeps its length. -/
theorem length_patch {l bs : List UInt8} {off : Nat} (h : off + bs.length ≤ l.length) :
    (patch l off bs).length = l.length := by
  simp only [patch, List.length_append, List.length_take, List.length_drop]
  omega

/-- Overwriting all of a list leaves what was written. -/
theorem patch_zero_of_length {l bs : List UInt8} (h : bs.length = l.length) :
    patch l 0 bs = bs := by
  simp [patch, h]

/-- An empty patch changes nothing. -/
@[simp] theorem patch_nil (l : List UInt8) (off : Nat) : patch l off [] = l := by
  simp [patch]

/-- A slice inside a list has the length asked for. -/
theorem length_slice {l : List UInt8} {off len : Nat} (h : off + len ≤ l.length) :
    (slice l off len).length = len := by
  simp only [slice, List.length_take, List.length_drop]
  omega

/-- A window that ends before the patch does not see it. -/
theorem slice_patch_before {l bs : List UInt8} {off o len : Nat} (h : o + len ≤ off)
    (hl : off ≤ l.length) : slice (patch l off bs) o len = slice l o len := by
  have ht : o ≤ (l.take off).length := by simp; omega
  simp only [slice, patch]
  rw [List.drop_append_of_le_length ht, List.take_append_of_le_length (by simp; omega),
    List.drop_take, List.take_take, Nat.min_eq_left (by omega)]

/-- A window that starts behind the patch does not see it. -/
theorem slice_patch_after {l bs : List UInt8} {off o len : Nat} (h : off + bs.length ≤ o)
    (hl : off ≤ l.length) : slice (patch l off bs) o len = slice l o len := by
  have ht : (l.take off).length = off := by simp; omega
  simp only [slice, patch]
  rw [List.drop_append, List.drop_eq_nil_of_le (by omega), List.nil_append, ht,
    List.drop_append, List.drop_eq_nil_of_le (by omega), List.nil_append, List.drop_drop]
  congr 2
  omega

/-- A window of an image overwritten from its start on: what the patch shows of it, then what the
image had there. -/
theorem slice_patch_zero (l bs : List UInt8) (o len : Nat) :
    slice (patch l 0 bs) o len =
      slice bs o len ++ (slice l o len).drop (slice bs o len).length := by
  simp only [slice, patch, List.take_zero, List.nil_append, Nat.zero_add, List.length_take,
    List.length_drop]
  rw [List.drop_append, List.take_append, List.length_drop, List.drop_drop, List.drop_take,
    List.drop_drop]
  by_cases h : len ≤ bs.length - o
  · rw [Nat.min_eq_left h, Nat.sub_self, Nat.sub_eq_zero_of_le h, List.take_zero, List.take_zero]
  · rw [Nat.min_eq_right (by omega)]
    congr 3
    omega

/-- A slice of the first part. -/
theorem slice_append_left {a b : List UInt8} {off len : Nat} (h : off + len ≤ a.length) :
    slice (a ++ b) off len = slice a off len := by
  simp only [slice]
  rw [List.drop_append_of_le_length (by omega), List.take_append_of_le_length (by simp; omega)]

/-- A slice of the second part. -/
theorem slice_append_right {a b : List UInt8} {off len : Nat} (h : a.length ≤ off) :
    slice (a ++ b) off len = slice b (off - a.length) len := by
  simp only [slice]
  rw [List.drop_append, List.drop_eq_nil_of_le h, List.nil_append]

/-- The slice of everything. -/
theorem slice_self (a : List UInt8) : slice a 0 a.length = a := by
  simp [slice]

end Bytes
