import Udtcp.Client.Polled
import Udtcp.Table.Reach

/-!
# Who sent a datagram

`udtcp_get_infos` of `server_poll.c:301–318` takes the first slot with the address of a datagram
for its sender. A client keeps its datagram socket when it connects anew, and the server may see
the new connection before the end of the old one.
-/

namespace Udtcp

open Interaction Routine

/-- What `udtcp_get_infos` compares of an address. -/
def SockaddrIn.source (a : SockaddrIn) : UInt32 × UInt16 := (a.sAddr, a.sinPort)

/-- Where the datagrams of a client come from, as far as `udtcp_get_infos` looks. -/
def Guest.source (g : Guest) : UInt32 × UInt16 := g.udpClientAddr.source

section

variable {m : Nat}

/-- A lookup finds the first live slot with that source. -/
theorem udtcpGetInfos_eq_some_iff {s : UdtcpServer m} {addr : SockaddrIn} {k : Nat} :
    udtcpGetInfos s addr = some k ↔ (2 ≤ k ∧ k < s.pollNfds) ∧
      (s.infos k).udpClientAddr.source = addr.source ∧
      ∀ j, 2 ≤ j → j < k → (s.infos j).udpClientAddr.source ≠ addr.source := by
  have hsource (i : Nat) : ((s.infos i).udpClientAddr.sAddr = addr.sAddr ∧
      (s.infos i).udpClientAddr.sinPort = addr.sinPort) ↔
        (s.infos i).udpClientAddr.source = addr.source := by
    simp [SockaddrIn.source]
  unfold udtcpGetInfos
  simp only [hsource]
  rw [List.find?_range'_eq_some]
  simp only [decide_eq_true_eq, Bool.not_eq_true', decide_eq_false_iff_not, List.mem_range'_1]
  constructor
  · rintro ⟨hk, ⟨hlow, hhigh⟩, hfirst⟩
    exact ⟨⟨hlow, by omega⟩, hk, hfirst⟩
  · rintro ⟨⟨hlow, hhigh⟩, hk, hfirst⟩
    exact ⟨hk, ⟨hlow, by omega⟩, hfirst⟩

/-- No two clients have the same source, and where no entry is marked each client is found by
its own. -/
structure KnowsSenders (s : UdtcpServer m) : Prop where
  apart : ∀ j k, s.Live j → s.Live k → j < k →
    (s.infos j).udpClientAddr.source ≠ (s.infos k).udpClientAddr.source
  found : (∀ j, 2 ≤ j → j < s.pollNfds → s.Live j) → ∀ k, s.Live k →
    udtcpGetInfos s (s.infos k).udpClientAddr = some k

variable {t : Thread (UdtcpServer m)} {tr : Trace posix} {w : Watch}

end

/-- A client that connects, loses its connection and connects anew, with the records it sends. -/
theorem exists_reconnection : ∃ (created first broken second : Trace posix)
    (c₀ c₁ c₂ c₃ : Thread UdtcpClient) (r : UdtcpInfos),
    ClientRun created created c₀ ∧
      Exec (udtcpConnectClient [] 0 0) c₀ first .success c₁ ∧
      Exec (udtcpClientPoll 1 0) c₁ broken .error c₂ ∧
      Exec (udtcpConnectClient [] 0 0) c₂ second .success c₃ ∧
      writes 3 first = [⟨3, r.encode, UdtcpInfos.sizeof⟩] ∧
      writes 3 second = [⟨3, r.encode, UdtcpInfos.sizeof⟩] := by
  obtain ⟨created, n, t, hcreate, rfl, hcalls, -⟩ := may_udtcpCreateClient ⟨.other 0, .zero 0⟩
    ⟨3, by decide⟩ ⟨4, by decide⟩ ⟨5, by decide⟩
  have hwatches {done : Trace posix} {u : Thread UdtcpClient} (hrun : ClientRun created done u) :
      u.self.Watches 3 := by
    obtain ⟨fd, hfd, hw⟩ := hrun.watches
    rw [hcalls] at hfd
    obtain rfl : fd = 3 := by
      cases hfd
      rfl
    exact hw
  have hsent (c : UdtcpClient) (key : List UInt8) (r : UdtcpInfos) :
      writes 3 (connectionCalls c ⟨3, by decide⟩ 0 blankRecord.val length_blankRecord ++
        ⟨.gethostbyaddr key, none⟩ :: Client.announcement c r) =
          [⟨3, (c.setTcpSocket 3).clientInfos.encode, UdtcpInfos.sizeof⟩] := by
    unfold Client.announcement
    cases c.connectCallback <;> rfl
  have hcreated := ClientRun.create hcreate
  obtain ⟨first, result, c₁, hfirst, rfl, key, r, hfirstCalls, hc₁⟩ :=
    may_udtcpConnectClient t ⟨3, by decide⟩ 0 length_blankRecord
  have hw := hwatches (hcreated.connect hfirst)
  obtain ⟨broken, result, c₂, hbroken, rfl, hc₂⟩ := may_udtcpClientPoll (t := c₁) hw.pollNfds
    (by rw [hw.fd, hc₁]; rfl)
  obtain ⟨second, result, c₃, hsecond, rfl, key', r', hsecondCalls, -⟩ :=
    may_udtcpConnectClient c₂ ⟨3, by decide⟩ 0 length_blankRecord
  refine ⟨created, first, broken, second, t, c₁, c₂, c₃, (t.self.setTcpSocket 3).clientInfos,
    hcreated, hfirst, hbroken, hsecond, ?_, ?_⟩
  · rw [hfirstCalls]
    exact hsent _ _ _
  · rw [hsecondCalls]
    refine (hsent _ _ _).trans ?_
    have hsame : (c₂.self.setTcpSocket 3).clientInfos = (t.self.setTcpSocket 3).clientInfos := by
      rw [UdtcpClient.setTcpSocket, hc₂, hc₁]
      rfl
    rw [hsame]

end Udtcp
