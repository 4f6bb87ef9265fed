import Udtcp.Names.Texts

/-!
# The name of an address

What `udtcp_set_string_infos` of `set_string_infos.c:33–53` leaves in `hostname`. It asks for the
name of the first four bytes of the socket address, its family and its port, and copies the answer
whatever its length.
-/

namespace Udtcp

open Interaction Routine Bytes

/-- A reverse resolver: names, which are C strings, for some keys of four bytes. -/
structure Resolver where
  lookup : List UInt8 → Option (List UInt8)
  zero_notMem : ∀ key name, lookup key = some name → 0 ∉ name

namespace Resolver

/-- The surroundings in which `gethostbyaddr` asks the resolver. -/
def kernel (ρ : Resolver) : Kernel posix Unit
  | _, .gethostbyaddr key, name, _ => name = ρ.lookup key
  | _, _, _, _ => True

private theorem kernel_gethostbyaddr_iff (ρ : Resolver) {u u' : Unit} {key : List UInt8}
    {name : Option (List UInt8)} :
    ρ.kernel u (.gethostbyaddr key) name u' ↔ name = ρ.lookup key := Iff.rfl

/-- A program that asks for one name runs against the resolver. -/
theorem runs_of_path (ρ : Resolver) {α : Type} {p : Program posix α} {a : α} (key : List UInt8)
    (h : p.Path [⟨.gethostbyaddr key, ρ.lookup key⟩] a) : p.Runs ρ.kernel () a () :=
  ⟨_, h, (), rfl, rfl⟩

/-- The name found under a key, or the dotted decimal form of the address. -/
def nameOf (ρ : Resolver) (key : List UInt8) (addr : UInt32) : List UInt8 :=
  (ρ.lookup key).getD (inetNtoa addr)

private theorem zero_notMem_nameOf (ρ : Resolver) (key : List UInt8) (addr : UInt32) :
    0 ∉ ρ.nameOf key addr := by
  rw [nameOf]
  cases h : ρ.lookup key with
  | none => exact zero_notMem_inetNtoa addr
  | some name => exact ρ.zero_notMem key name h

end Resolver

/-- A record whose texts are filled with zeros. -/
def UdtcpInfos.blankTexts (r : UdtcpInfos) : UdtcpInfos :=
  { r with hostname := .replicate 256 0, ip := .replicate 16 0 }

/-- On a record with blank texts the function comes to an end, writes no byte outside `hostname` and
`ip`, and leaves in `hostname` the name of `addr->sin_addr`, cut to fit, or its dotted form. -/
def NamesHost (ρ : Resolver) (addr : SockaddrIn) (t : Thread UdtcpInfos) : Prop :=
  ∃ t', Program.Runs ρ.kernel (udtcpSetStringInfos (fun _ ↦ addr) ⟨t.errno, t.self.blankTexts⟩) ()
      ((), t') () ∧
    t.self.blankTexts.OnlyTexts t'.self ∧
    cString t'.self.hostname.toList =
      some ((ρ.nameOf (Codec.u32.encode addr.sAddr) addr.sAddr).take 255)

section

variable {ρ : Resolver} {addr : SockaddrIn} {t t' : Thread UdtcpInfos} {r : UdtcpInfos}

private theorem cString_hostname {name : List UInt8} (hr : r.hostname = .replicate 256 0)
    (h : 0 ∉ name) : cString (r.patch UdtcpInfos.hostnameOffset name).hostname.toList =
      if name.length ≤ 255 then some name else none := by
  have hblank : r.hostname.toList = List.replicate 256 0 := by rw [hr, Vector.toList_replicate]
  have hslice : slice name (UdtcpInfos.hostnameOffset - UdtcpInfos.hostnameOffset) 256 =
      name.take 256 := by
    rw [Nat.sub_self, slice, List.drop_zero]
  rw [UdtcpInfos.toList_hostname_patch _ (Nat.le_refl _), hslice, hblank]
  split
  · next hlen =>
    rw [List.take_of_length_le (by omega), cString_append_drop_iff h,
      List.getElem?_replicate_of_lt (by omega)]
  · next hlen =>
    have hfull : (name.take 256).length = 256 := by
      rw [List.length_take]
      omega
    rw [hfull, List.drop_eq_nil_of_le (Nat.le_of_eq List.length_replicate), List.append_nil]
    exact cString_eq_none fun hmem ↦ h (List.mem_of_mem_take hmem)

private theorem cString_of_runs (hr : t.self.hostname = .replicate 256 0)
    (h : Program.Runs ρ.kernel (udtcpSetStringInfos (fun _ ↦ addr) t) () ((), t') ()) :
    cString t'.self.hostname.toList =
      if (ρ.nameOf (addr.encode.take 4) addr.sAddr).length ≤ 255
      then some (ρ.nameOf (addr.encode.take 4) addr.sAddr) else none := by
  obtain ⟨tr, hrun, ha⟩ := h
  obtain ⟨name, rfl, hcopy⟩ := exec_udtcpSetStringInfos_cases hrun
  obtain ⟨_, hname, -⟩ := ha
  have hname : name = ρ.lookup (addr.encode.take 4) := ρ.kernel_gethostbyaddr_iff.mp hname
  have hnul := ρ.zero_notMem_nameOf (addr.encode.take 4) addr.sAddr
  rw [Resolver.nameOf, ← hname] at hnul ⊢
  cases name with
  | none =>
    obtain rfl := hcopy
    exact cString_hostname
      ((UdtcpInfos.hostname_patch_of_le _ (Nat.le_refl _) (by decide)).trans hr) hnul
  | some text =>
    obtain rfl := hcopy
    rw [UdtcpInfos.hostname_patch_of_le _ (Nat.le_refl _) (by decide)]
    exact cString_hostname hr hnul

private theorem exec_copyText_of_le {t : Thread UdtcpInfos} (offset : Nat) {text : List UInt8}
    (h : offset + text.length ≤ UdtcpInfos.sizeof) :
    Exec (copyText offset text) t [] () { t with self := t.self.patch offset text } := by
  unfold copyText
  rw [if_pos h]
  exact exec_update.mpr ⟨rfl, rfl⟩

private theorem runs_of_length_le (h : (ρ.nameOf (addr.encode.take 4) addr.sAddr).length ≤ 255) :
    ∃ t', Program.Runs ρ.kernel (udtcpSetStringInfos (fun _ ↦ addr) t) () ((), t') () ∧
      t.self.OnlyTexts t'.self := by
  have hshort := length_inetNtoa addr.sAddr
  have hfits : (inetNtoa addr.sAddr).length ≤ 255 := by omega
  have hip (r : UdtcpInfos) : r.OnlyTexts (r.patch UdtcpInfos.ipOffset (inetNtoa addr.sAddr)) :=
    r.onlyTexts_patch (by decide) (by rw [UdtcpInfos.ipOffset]; omega)
  have hname (r : UdtcpInfos) {text : List UInt8} (hlen : text.length ≤ 255) :
      r.OnlyTexts (r.patch UdtcpInfos.hostnameOffset text) :=
    r.onlyTexts_patch (Nat.le_refl _) (by rw [UdtcpInfos.hostnameOffset]; omega)
  have hcopyIp {t : Thread UdtcpInfos} : Exec (copyText UdtcpInfos.ipOffset (inetNtoa addr.sAddr))
      t [] () { t with self := t.self.patch UdtcpInfos.ipOffset (inetNtoa addr.sAddr) } :=
    exec_copyText_of_le _ (by rw [UdtcpInfos.ipOffset, UdtcpInfos.sizeof]; omega)
  have hcopyName {t : Thread UdtcpInfos} {text : List UInt8} (hlen : text.length ≤ 255) :
      Exec (copyText UdtcpInfos.hostnameOffset text) t [] ()
        { t with self := t.self.patch UdtcpInfos.hostnameOffset text } :=
    exec_copyText_of_le _ (by rw [UdtcpInfos.hostnameOffset, UdtcpInfos.sizeof]; omega)
  rw [Resolver.nameOf] at h
  cases hlookup : ρ.lookup (addr.encode.take 4) with
  | none =>
    refine ⟨⟨t.errno, (t.self.patch UdtcpInfos.ipOffset (inetNtoa addr.sAddr)).patch
      UdtcpInfos.hostnameOffset (inetNtoa addr.sAddr)⟩, ρ.runs_of_path (addr.encode.take 4) ?_, ?_⟩
    · rw [hlookup]
      refine exec_self_bind.mpr (exec_request_bind.mpr ⟨none, [], rfl, exec_self_bind.mpr ?_⟩)
      exact exec_bind.mpr ⟨[], (), _, [], rfl, hcopyIp, hcopyName hfits⟩
    · exact (hip t.self).trans (hname _ hfits)
  | some text =>
    rw [hlookup] at h
    refine ⟨⟨t.errno, (t.self.patch UdtcpInfos.hostnameOffset text).patch
      UdtcpInfos.ipOffset (inetNtoa addr.sAddr)⟩, ρ.runs_of_path (addr.encode.take 4) ?_, ?_⟩
    · rw [hlookup]
      refine exec_self_bind.mpr (exec_request_bind.mpr ⟨some text, [], rfl, ?_⟩)
      exact exec_bind.mpr ⟨[], (), _, [], rfl, hcopyName h, exec_self_bind.mpr hcopyIp⟩
    · exact (hname t.self h).trans (hip _)

/-- **The name of an address.** The function does what it is for if and only if the resolver has the
same text for the family and the port of the address as for the address itself, cut to fit. -/
theorem hostname_names_address_iff (ρ : Resolver) (addr : SockaddrIn) (t : Thread UdtcpInfos) :
    NamesHost ρ addr t ↔ ρ.nameOf (addr.encode.take 4) addr.sAddr =
      (ρ.nameOf (Codec.u32.encode addr.sAddr) addr.sAddr).take 255 := by
  have hread {t' : Thread UdtcpInfos} (hrun : Program.Runs ρ.kernel
      (udtcpSetStringInfos (fun _ ↦ addr) ⟨t.errno, t.self.blankTexts⟩) () ((), t') ()) :=
    cString_of_runs (t := ⟨t.errno, t.self.blankTexts⟩) rfl hrun
  constructor
  · rintro ⟨t', hrun, -, htext⟩
    rw [hread hrun] at htext
    split at htext
    · exact Option.some.inj htext
    · cases htext
  · intro h
    have hlen : (ρ.nameOf (addr.encode.take 4) addr.sAddr).length ≤ 255 := by
      rw [h]
      exact List.length_take_le _ _
    obtain ⟨t', hrun, honly⟩ := runs_of_length_le (t := ⟨t.errno, t.self.blankTexts⟩) hlen
    refine ⟨t', hrun, honly, ?_⟩
    rw [hread hrun, if_pos hlen, h]

end

/-! ### Two resolvers -/

/-- A resolver that knows the name `localhost` of `127.0.0.1`, and no other. -/
def localResolver : Resolver where
  lookup key :=
    if key = [127, 0, 0, 1] then some [108, 111, 99, 97, 108, 104, 111, 115, 116] else none
  zero_notMem key name h := by
    obtain ⟨-, hname⟩ := Option.ite_none_right_eq_some.mp h
    obtain rfl := Option.some.inj hname
    decide

/-- A resolver that has a name of 300 letters for everything. -/
def longResolver : Resolver where
  lookup _ := some (List.replicate 300 97)
  zero_notMem key name h := by
    obtain rfl := Option.some.inj h
    exact fun hmem ↦ absurd (List.eq_of_mem_replicate hmem) (by decide)

/-- The socket address `127.0.0.1`, port 80. -/
def loopback : SockaddrIn := ⟨2, 0x5000, 0x0100007f, .replicate 8 0⟩

/-- **The defect.** The name of `127.0.0.1` is not found, for another key was asked for; and a name
that is too long is not cut. -/
theorem hostname_misses_address :
    (localResolver.lookup (Codec.u32.encode loopback.sAddr) =
        some [108, 111, 99, 97, 108, 104, 111, 115, 116] ∧
      ¬ NamesHost localResolver loopback ⟨.other 0, .zero⟩) ∧
    ¬ NamesHost longResolver loopback ⟨.other 0, .zero⟩ := by
  refine ⟨⟨by decide, ?_⟩, ?_⟩
  · rintro ⟨t', hrun, -, htext⟩
    rw [cString_of_runs rfl hrun] at htext
    revert htext
    decide
  · rintro ⟨t', hrun, -, htext⟩
    have hlong : ¬ (longResolver.nameOf (loopback.encode.take 4) loopback.sAddr).length ≤ 255 := by
      change ¬ (List.replicate 300 97).length ≤ 255
      rw [List.length_replicate]
      decide
    rw [cString_of_runs rfl hrun, if_neg hlong] at htext
    cases htext

end Udtcp
