import Udtcp.Table.Guests

/-!
# Send structures

A client is given the send structure of the slot it comes in at (`server_poll.c:161–165`) and keeps
it, while the compaction of `server_poll.c:517–537` moves its record to lower slots. A client that
comes in later may then be given the same one.
-/

namespace Udtcp

open Interaction Routine

section

variable {m : Nat}

/-- The send structures lie one behind the other, so two of them have different addresses as long
as the array fits into the address space. -/
theorem UdtcpServer.sendAddr_inj {s : UdtcpServer m} {i j : Nat}
    (hm : 72 * pollTableSize m ≤ 2 ^ 64) (hi : i < pollTableSize m) (hj : j < pollTableSize m)
    (h : s.sendAddr i = s.sendAddr j) : i = j := by
  have hoffset := congrArg UInt64.toNat ((UInt64.add_right_inj s.addr).mp h)
  rw [UInt64.toNat_ofNat', UInt64.toNat_ofNat'] at hoffset
  have hbound {k : Nat} (hk : k < pollTableSize m) : 72 * k < 2 ^ 64 :=
    Nat.lt_of_lt_of_le (Nat.mul_lt_mul_of_pos_left hk (by decide)) hm
  have hmod : 72 * i ≡ 72 * j [MOD 2 ^ 64] := Nat.ModEq.add_left_cancel' _ hoffset
  exact Nat.eq_of_mul_eq_mul_left (by decide) (hmod.eq_of_lt_of_lt (hbound hi) (hbound hj))

/-- Every client has a send structure behind the two of the server, and no two share one. -/
structure OwnsSends (s : UdtcpServer m) : Prop where
  entry : ∀ k, 2 ≤ k → k < s.pollNfds → ∃ i, 2 ≤ i ∧ i < pollTableSize m ∧
    (s.infos k).send = s.sendAddr i
  distinct : ∀ j k, 2 ≤ j → j < k → k < s.pollNfds → (s.infos j).send ≠ (s.infos k).send

variable {t : Thread (UdtcpServer m)} {tr : Trace posix} {w : Watch}

end

end Udtcp
