import Udtcp.Posix.Call

/-!
# Address text and socket options

`udtcp/src/set_string_infos.c` and `udtcp/src/socket_option.c`.
-/

namespace Udtcp

/-- `O_NONBLOCK`. -/
def O_NONBLOCK : Nat := 2048

/-- `udtcp_socket_add_option`, `socket_option.c:28–44`. -/
def udtcpSocketAddOption {τ : Type} (socket : Fd) (option : Nat) : Proc τ Int := do
  match ← syscall (.getfl socket) with
  | .error _ => return -1
  | .ok flags =>
    match ← syscall (.setfl socket (Nat.lor flags option)) with
    | .error _ => return -1
    | .ok _ => return 0

/-- Decimal digits of a byte, as text. -/
def decimal (b : UInt8) : List UInt8 :=
  (Nat.toDigits 10 b.toNat).map fun c ↦ UInt8.ofNat c.toNat

/-- `inet_ntoa`: the four bytes of an address in memory order, in dotted decimal form. -/
def inetNtoa (sAddr : UInt32) : List UInt8 :=
  [46].intercalate ((Bytes.Codec.u32.encode sAddr).map decimal)

/-- `memcpy` of a text into the record from `offset` on. A text that leaves the record
would write into another object. -/
def copyText (offset : Nat) (text : List UInt8) : Proc UdtcpInfos Unit := do
  if offset + text.length ≤ UdtcpInfos.sizeof then
    update (·.patch offset text)
  else
    crash

/-- `udtcp_set_string_infos`, `set_string_infos.c:33–53`. `addr` is what the pointer of that name
leads to, which may lie in the record itself. The key of the reverse lookup is the first four bytes
there; no terminator is copied. -/
def udtcpSetStringInfos (addr : UdtcpInfos → SockaddrIn) : Proc UdtcpInfos Unit := do
  match ← request (.gethostbyaddr ((addr (← self)).encode.take 4)) with
  | some name =>
    copyText UdtcpInfos.hostnameOffset name
    copyText UdtcpInfos.ipOffset (inetNtoa (addr (← self)).sAddr)
  | none =>
    let text := inetNtoa (addr (← self)).sAddr
    copyText UdtcpInfos.ipOffset text
    copyText UdtcpInfos.hostnameOffset text

/-- A byte has at most three digits. -/
theorem length_decimal (b : UInt8) : (decimal b).length ≤ 3 := by
  rw [decimal, List.length_map, Nat.length_toDigits_le_iff (by decide) (by decide)]
  have := b.toNat_lt
  omega

/-- A dotted address fits into `ip` with its terminator. -/
theorem length_inetNtoa (a : UInt32) : (inetNtoa a).length ≤ 15 := by
  have hlen := Bytes.Codec.u32.length_encode a
  rw [inetNtoa]
  generalize Bytes.Codec.u32.encode a = l at hlen ⊢
  match l, hlen with
  | [b₀, b₁, b₂, b₃], _ =>
    have h₀ := length_decimal b₀
    have h₁ := length_decimal b₁
    have h₂ := length_decimal b₂
    have h₃ := length_decimal b₃
    simp [List.intercalate]
    omega

section

open Interaction Routine

variable {t t' : Thread UdtcpInfos} {tr : Trace posix} {u : Unit}

/-- Copying a text into a record only patches it. -/
theorem exec_copyText {offset : Nat} {text : List UInt8}
    (h : Exec (copyText offset text) t tr u t') :
    tr = [] ∧ t' = { t with self := t.self.patch offset text } := by
  unfold copyText at h
  rw [exec_ite] at h
  split at h
  · exact exec_update.mp h
  · exact (exec_crash h).elim

/-- What setting the texts of a record does, given the answer of the reverse lookup. -/
theorem exec_udtcpSetStringInfos_cases {addr : UdtcpInfos → SockaddrIn}
    (h : Exec (udtcpSetStringInfos addr) t tr u t') :
    ∃ name, tr = [⟨.gethostbyaddr ((addr t.self).encode.take 4), name⟩] ∧
      match name with
      | some text =>
        let r := t.self.patch UdtcpInfos.hostnameOffset text
        t' = { t with self := r.patch UdtcpInfos.ipOffset (inetNtoa (addr r).sAddr) }
      | none =>
        let text := inetNtoa (addr t.self).sAddr
        t' = { t with self :=
          (t.self.patch UdtcpInfos.ipOffset text).patch UdtcpInfos.hostnameOffset text } := by
  obtain ⟨name, rest, rfl, hcopy⟩ := exec_request_bind.mp (exec_self_bind.mp h)
  refine ⟨name, ?_⟩
  cases name with
  | none =>
    obtain ⟨tr₁, _, t₁, tr₂, rfl, h₁, h₂⟩ := exec_bind.mp (exec_self_bind.mp hcopy)
    obtain ⟨rfl, rfl⟩ := exec_copyText h₁
    obtain ⟨rfl, rfl⟩ := exec_copyText h₂
    exact ⟨rfl, rfl⟩
  | some text =>
    obtain ⟨tr₁, _, t₁, tr₂, rfl, h₁, h₂⟩ := exec_bind.mp hcopy
    obtain ⟨rfl, rfl⟩ := exec_copyText h₁
    obtain ⟨rfl, rfl⟩ := exec_copyText (exec_self_bind.mp h₂)
    exact ⟨rfl, rfl⟩

/-- The text of an address, over `ip` or over `hostname`, leaves the link alone. -/
theorem UdtcpInfos.sameLink_patch_inetNtoa (r : UdtcpInfos) {off : Nat} (h : 8 ≤ off)
    (hoff : off ≤ ipOffset) (addr : UInt32) : r.SameLink (r.patch off (inetNtoa addr)) := by
  have hlen := length_inetNtoa addr
  apply UdtcpInfos.sameLink_patch _ h
  rw [ipOffset] at hoff
  omega

/-- Setting the texts of a record is one reverse lookup; a name that fits into `hostname` leaves
the rest of the record alone. -/
theorem exec_udtcpSetStringInfos {addr : UdtcpInfos → SockaddrIn}
    (h : Exec (udtcpSetStringInfos addr) t tr u t') :
    ∃ name, tr = [⟨.gethostbyaddr ((addr t.self).encode.take 4), name⟩] ∧
      ((∀ text, name = some text → NameFits text) → t.self.SameLink t'.self) := by
  obtain ⟨name, rfl, hcopy⟩ := exec_udtcpSetStringInfos_cases h
  refine ⟨name, rfl, ?_⟩
  cases name with
  | none =>
    obtain rfl := hcopy
    exact fun _ ↦ (UdtcpInfos.sameLink_patch_inetNtoa _ (by decide) (Nat.le_refl _) _).trans
      (UdtcpInfos.sameLink_patch_inetNtoa _ (by decide) (by decide) _)
  | some text =>
    obtain rfl := hcopy
    intro hshort
    have htext := hshort text rfl
    exact (UdtcpInfos.sameLink_patch _ (by decide) (by rw [UdtcpInfos.hostnameOffset]; omega)).trans
      (UdtcpInfos.sameLink_patch_inetNtoa _ (by decide) (Nat.le_refl _) _)

/-- Setting the texts of a record keeps its descriptor exactly if the name found for the address
does not write another number over it. -/
theorem exec_udtcpSetStringInfos_tcpSocket {addr : UdtcpInfos → SockaddrIn}
    (h : Exec (udtcpSetStringInfos addr) t tr u t') :
    ∃ name, tr = [⟨.gethostbyaddr ((addr t.self).encode.take 4), name⟩] ∧
      (t'.self.tcpSocket = t.self.tcpSocket ↔ ∀ text, name = some text →
        Bytes.slice text (UdtcpInfos.tcpSocketOffset - UdtcpInfos.hostnameOffset) 4 <+:
          Bytes.Codec.i32.encode t.self.tcpSocket) := by
  obtain ⟨name, rfl, hcopy⟩ := exec_udtcpSetStringInfos_cases h
  refine ⟨name, rfl, ?_⟩
  cases name with
  | none =>
    obtain rfl := hcopy
    refine ⟨fun _ _ htext ↦ (by cases htext), fun _ ↦ ?_⟩
    exact ((UdtcpInfos.sameLink_patch_inetNtoa _ (by decide) (Nat.le_refl _) _).trans
      (UdtcpInfos.sameLink_patch_inetNtoa _ (by decide) (by decide) _)).tcpSocket
  | some text =>
    obtain rfl := hcopy
    have hlast (r : UdtcpInfos) (a : UInt32) :
        r.SameLink (r.patch UdtcpInfos.ipOffset (inetNtoa a)) :=
      r.sameLink_patch_inetNtoa (by decide) (Nat.le_refl _) a
    simp only [(hlast _ _).tcpSocket, UdtcpInfos.tcpSocket_patch_hostname_eq_iff, Option.some.injEq,
      forall_eq']

/-- Adding an option reads the flags of a descriptor and sets them. -/
theorem emits_udtcpSocketAddOption {τ : Type} {P : Event posix → Prop} {fd : Fd} {option : Nat}
    (hget : ∀ r, P ⟨.sys (.getfl fd), r⟩) (hset : ∀ flags r, P ⟨.sys (.setfl fd flags), r⟩) :
    Emits P (udtcpSocketAddOption fd option : Proc τ Int) := by
  refine (emits_syscall hget).bind fun r ↦ ?_
  cases r with
  | error e => exact emits_pure _
  | ok flags =>
    refine (emits_syscall (hset _)).bind fun r ↦ ?_
    cases r with
    | error e => exact emits_pure _
    | ok u => exact emits_pure _

end

end Udtcp
