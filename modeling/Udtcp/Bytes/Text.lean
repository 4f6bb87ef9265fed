import Udtcp.Bytes.Codec

/-!
# NUL-terminated text in a field of bytes

What a reader of C strings sees in a field, and what of a longer text stays behind a shorter one
that is copied over it without its terminator.
-/

namespace Bytes

/-- The text of a field, up to the first NUL; `none` where there is no NUL. -/
def cString (field : List UInt8) : Option (List UInt8) :=
  if 0 ∈ field then some (field.takeWhile (· ≠ 0)) else none

/-- A field without a zero byte holds no text. -/
theorem cString_eq_none {field : List UInt8} (h : 0 ∉ field) : cString field = none := if_neg h

private theorem takeWhile_ne_zero {text rest : List UInt8} (h : 0 ∉ text) :
    (text ++ rest).takeWhile (· ≠ 0) = text ++ rest.takeWhile (· ≠ 0) := by
  apply List.takeWhile_append_of_pos
  intro b hb
  have hne : b ≠ 0 := ne_of_mem_of_not_mem hb h
  simpa using hne

/-- A field that begins with a text reads as that text exactly if a NUL follows. -/
theorem cString_append_iff {text rest : List UInt8} (h : 0 ∉ text) :
    cString (text ++ rest) = some text ↔ rest[0]? = some 0 := by
  rw [cString, takeWhile_ne_zero h]
  cases rest with
  | nil => simp [h]
  | cons b rest =>
    by_cases hb : b = 0
    · subst hb
      simp
    · simp [hb]

/-- Text copied to the start of a field reads as that text exactly if the field had a NUL there. -/
theorem cString_append_drop_iff {text field : List UInt8} (h : 0 ∉ text) :
    cString (text ++ field.drop text.length) = some text ↔ field[text.length]? = some 0 := by
  rw [cString_append_iff h, List.getElem?_drop, Nat.add_zero]

/-- A window behind the start of a patch: what the patch shows of it, then what was there. -/
theorem slice_patch_from {l bs : List UInt8} {off o : Nat} (len : Nat) (h : off ≤ o)
    (hl : off ≤ l.length) : slice (patch l off bs) o len =
      slice bs (o - off) len ++ (slice l o len).drop (slice bs (o - off) len).length := by
  have ht : (l.take off).length = off := by
    rw [List.length_take]
    exact Nat.min_eq_left hl
  have hpatch : patch l off bs = patch l 0 (l.take off ++ bs) := by
    simp only [patch, List.take_zero, List.nil_append, List.length_append, ht, Nat.zero_add,
      List.append_assoc]
  have hslice : slice (l.take off ++ bs) o len = slice bs (o - off) len := by
    rw [slice_append_right (by rw [ht]; exact h), ht]
  rw [hpatch, slice_patch_zero, hslice]

namespace Codec

private theorem exact_block (n : Nat) : (block n).Exact := by
  intro l hl
  apply List.ext_getElem
  · exact ((block n).length_encode _).trans hl.symm
  · intro i h₁ h₂
    change ((toVector n l).toList)[i] = _
    simp [toVector, h₂]

/-- A block of an image, as it reads behind a patch that begins before it or with it. -/
theorem toList_readAt_patch {n : Nat} {l bs : List UInt8} {off o : Nat} (h : off ≤ o)
    (hb : off + bs.length ≤ l.length) (hl : o + n ≤ l.length) :
    ((block n).readAt (patch l off bs) o).toList =
      slice bs (o - off) n ++ ((block n).readAt l o).toList.drop (slice bs (o - off) n).length := by
  have hold : ((block n).readAt l o).toList = slice l o n := exact_block n _ (length_slice hl)
  have hnew : ((block n).readAt (patch l off bs) o).toList = slice (patch l off bs) o n :=
    exact_block n _ (length_slice (by rw [length_patch hb]; exact hl))
  rw [hnew, hold, slice_patch_from n h (by omega)]

end Codec

end Bytes
