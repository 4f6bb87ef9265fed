import Udtcp.Base.StringInfos
import Udtcp.Bytes.Text

/-!
# The texts of a record

How `hostname` and `ip` of `struct udtcp_infos_s` (`udtcp/include/udtcp.h:144–159`) read behind the
copies of `set_string_infos.c:33–53`.
-/

namespace Udtcp

open Bytes

/-- Digits of a byte are no NULs. -/
theorem zero_notMem_decimal (b : UInt8) : 0 ∉ decimal b := by
  rw [decimal, List.mem_map]
  rintro ⟨c, hc, hzero⟩
  have hdigit := Char.isDigit_iff_toNat.mp (Nat.isDigit_of_mem_toDigits (by decide) (by decide) hc)
  have hlow : '0'.toNat = 48 := rfl
  have hhigh : '9'.toNat = 57 := rfl
  have hval := congrArg UInt8.toNat hzero
  rw [UInt8.toNat_ofNat', UInt8.toNat_zero] at hval
  omega

/-- A dotted address has no NUL. -/
theorem zero_notMem_inetNtoa (a : UInt32) : 0 ∉ inetNtoa a := by
  rw [inetNtoa]
  generalize Codec.u32.encode a = l
  induction l with
  | nil => exact List.not_mem_nil
  | cons b l ih =>
    cases l with
    | nil => simpa [List.intercalate] using zero_notMem_decimal b
    | cons b' l =>
      have hcons : [46].intercalate ((b :: b' :: l).map decimal) =
          decimal b ++ (46 :: [46].intercalate ((b' :: l).map decimal)) := by
        simp [List.intercalate]
      rw [hcons, List.mem_append, List.mem_cons]
      rintro (h | h | h)
      · exact zero_notMem_decimal b h
      · cases h
      · exact ih h

namespace UdtcpInfos

/-- Two records that differ at most in `hostname` and `ip`. -/
def OnlyTexts (r r' : UdtcpInfos) : Prop := r' = { r with hostname := r'.hostname, ip := r'.ip }

/-- Changes of the texts one after the other. -/
theorem OnlyTexts.trans {r r' r'' : UdtcpInfos} (h : OnlyTexts r r') (h' : OnlyTexts r' r'') :
    OnlyTexts r r'' := by
  unfold OnlyTexts at *
  rw [h'] at *
  rw [h]

section

variable (r : UdtcpInfos) {off : Nat} {bs : List UInt8}

/-- Text that stays inside `hostname` and `ip` changes nothing else. -/
theorem onlyTexts_patch (h : 8 ≤ off) (hb : off + bs.length ≤ 280) :
    r.OnlyTexts (r.patch off bs) := by
  have hlink := r.sameLink_patch h hb
  apply ext'
  · exact hlink.id
  · rfl
  · rfl
  · exact hlink.tcpSocket
  · exact hlink.udpServerSocket
  · exact hlink.udpClientSocket
  · exact hlink.tcpAddr
  · exact hlink.udpServerAddr
  · exact hlink.udpClientAddr
  · exact r.field_patch h hb (·.tcpPort) .u16 340 (fun _ ↦ rfl) (by decide)
  · exact r.field_patch h hb (·.udpServerPort) .u16 342 (fun _ ↦ rfl) (by decide)
  · exact r.field_patch h hb (·.udpClientPort) .u16 344 (fun _ ↦ rfl) (by decide)
  · exact r.field_patch h hb (·.padding) (.block 6) 346 (fun _ ↦ rfl) (by decide)
  · exact hlink.send

private theorem toList_block_patch {n o : Nat} {f : UdtcpInfos → Vector UInt8 n}
    (hf : ∀ l, f (decode l) = (Codec.block n).readAt l o) (ho : o + n ≤ sizeof) (h : off ≤ o) :
    (f (r.patch off bs)).toList =
      slice bs (o - off) n ++ (f r).toList.drop (slice bs (o - off) n).length := by
  have hold : (Codec.block n).readAt r.encode o = f r := by rw [← hf, decode_encode]
  have hwindow : slice (bs.take (sizeof - off)) (o - off) n = slice bs (o - off) n := by
    rw [slice, slice, List.drop_take, List.take_take, Nat.min_eq_left (by omega)]
  have hb : off + (bs.take (sizeof - off)).length ≤ r.encode.length := by
    rw [List.length_take, length_encode]
    simp only [sizeof] at ho ⊢
    omega
  rw [patch, hf, Codec.toList_readAt_patch h hb (by rw [length_encode]; exact ho), hwindow, hold]

/-- What a patch leaves in `hostname`. -/
theorem toList_hostname_patch (h : off ≤ hostnameOffset) : (r.patch off bs).hostname.toList =
    slice bs (hostnameOffset - off) 256 ++
      r.hostname.toList.drop (slice bs (hostnameOffset - off) 256).length :=
  r.toList_block_patch (fun _ ↦ rfl) (by decide) h

/-- What a patch leaves in `ip`. -/
theorem toList_ip_patch (h : off ≤ ipOffset) : (r.patch off bs).ip.toList =
    slice bs (ipOffset - off) 16 ++ r.ip.toList.drop (slice bs (ipOffset - off) 16).length :=
  r.toList_block_patch (fun _ ↦ rfl) (by decide) h

/-- What is written behind `hostname` leaves it alone. -/
theorem hostname_patch_of_le (h : ipOffset ≤ off) (hoff : off ≤ sizeof) :
    (r.patch off bs).hostname = r.hostname := by
  have hread (l : List UInt8) :
      (decode l).hostname = (Codec.block 256).readAt l hostnameOffset := rfl
  rw [patch, hread, Codec.readAt_patch_before _ h (by rw [length_encode]; exact hoff), ← hread,
    decode_encode]

/-- Text that ends in `hostname` leaves what is behind it alone. -/
theorem ip_patch_of_le (h : off + bs.length ≤ ipOffset) : (r.patch off bs).ip = r.ip := by
  apply Vector.toList_inj.mp
  have hnil : slice bs (ipOffset - off) 16 = [] := by
    rw [slice, List.drop_eq_nil_of_le (by omega), List.take_nil]
  rw [r.toList_ip_patch (by omega), hnil]
  rfl

end

/-- Text of at most sixteen bytes at the place of `ip`. -/
theorem toList_ip_patch_ip (r : UdtcpInfos) {text : List UInt8} (h : text.length ≤ 16) :
    (r.patch ipOffset text).ip.toList = text ++ r.ip.toList.drop text.length := by
  have hslice : slice text 0 16 = text := by rw [slice, List.drop_zero, List.take_of_length_le h]
  rw [r.toList_ip_patch (Nat.le_refl _), Nat.sub_self, hslice]

end UdtcpInfos

end Udtcp
