import Udtcp.Client.Calls
import Udtcp.Client.Dial
import Udtcp.Client.Possible
import Udtcp.Names.Texts
import Udtcp.Posix.Recorded

/-!
# The text of an address

What stands in `ip` behind a handshake. `accept_client` (`server_poll.c:105–195`) and
`udtcp_connect_client` (`connect_client.c:157–270`) receive the peer's record over their own and
then copy the dotted address over its `ip`, without a NUL behind it.
-/

namespace Udtcp

open Interaction Routine Bytes

/-- What a peer is known by: the address it was met at, its record, the name of its address. -/
inductive Introduction where
  | met (addr : UInt32)
  | record (bs : List UInt8)
  | named (name : Option (List UInt8))
  deriving DecidableEq, Repr

/-- What a call shows of the peer, if anything. -/
def introductionOf : (c : Call) → c.Reply → Option Introduction
  | .sys (.accept _), .ok a => some (.met a.2.sAddr)
  | .gethostbyname _, some host => some (.met host.addr)
  | .sys (.recv _ .record _), .ok bs => some (.record bs.val)
  | .gethostbyaddr _, name => some (.named name)
  | _, _ => none

/-- What a trace shows of the peer, oldest first. -/
def introductions (tr : Trace posix) : List Introduction :=
  tr.filterMap fun e ↦ introductionOf e.call e.reply

/-- The field `ip` is the dotted form of the address in `tcp_addr`. -/
def UdtcpInfos.NamesPeer (r : UdtcpInfos) : Prop :=
  cString r.ip.toList = some (inetNtoa r.tcpAddr.sAddr)

/-- Where the text of `addr` ends, the peer's record has a NUL that the name does not reach. -/
def SparesNul (addr : UInt32) (bs : List UInt8) (name : Option (List UInt8)) : Prop :=
  bs[UdtcpInfos.ipOffset + (inetNtoa addr).length]? = some 0 ∧
    ∀ text, name = some text → text.length ≤ 256 + (inetNtoa addr).length

/-- What is left of an introduction: names being C strings, the field `ip` is right exactly if a NUL
was spared. -/
def Introduced (us : List Introduction) (r : UdtcpInfos) : Prop :=
  ∃ addr bs name, us = [.met addr, .record bs, .named name] ∧
    ((∀ text, name = some text → 0 ∉ text) → (r.NamesPeer ↔ SparesNul addr bs name))

/-! ### The copies -/

section

variable {r : UdtcpInfos} {bs : List UInt8}

private theorem namesPeer_patch_ip_iff :
    (r.patch UdtcpInfos.ipOffset (inetNtoa r.tcpAddr.sAddr)).NamesPeer ↔
      r.ip.toList[(inetNtoa r.tcpAddr.sAddr).length]? = some 0 := by
  have hshort := length_inetNtoa r.tcpAddr.sAddr
  have hsame : r.SameLink (r.patch UdtcpInfos.ipOffset (inetNtoa r.tcpAddr.sAddr)) :=
    r.sameLink_patch_inetNtoa (by decide) (Nat.le_refl _) r.tcpAddr.sAddr
  rw [UdtcpInfos.NamesPeer, hsame.tcpAddr, r.toList_ip_patch_ip (by omega),
    cString_append_drop_iff (zero_notMem_inetNtoa _)]

private theorem ip_patch_hostname_iff {text : List UInt8} {n : Nat} (h : 0 ∉ text) (hn : n < 16) :
    (r.patch UdtcpInfos.hostnameOffset text).ip.toList[n]? = some 0 ↔
      r.ip.toList[n]? = some 0 ∧ text.length ≤ 256 + n := by
  have hlen : (slice text (UdtcpInfos.ipOffset - UdtcpInfos.hostnameOffset) 16).length =
      min 16 (text.length - 256) := by
    rw [slice, List.length_take, List.length_drop]
    rfl
  rw [UdtcpInfos.toList_ip_patch _ (by decide)]
  by_cases hreach : text.length ≤ 256 + n
  · rw [List.getElem?_append_right (by omega), List.getElem?_drop, and_iff_left hreach,
      Nat.add_sub_of_le (by omega)]
  · rw [List.getElem?_append_left (by omega)]
    refine iff_of_false (fun hzero ↦ h ?_) fun hboth ↦ hreach hboth.2
    exact List.mem_of_mem_drop (List.mem_of_mem_take (List.mem_of_getElem? hzero))

private theorem namesPeer_patch_hostname_iff (addr : UInt32) :
    (r.patch UdtcpInfos.hostnameOffset (inetNtoa addr)).NamesPeer ↔ r.NamesPeer := by
  have hshort := length_inetNtoa addr
  have hsame : r.SameLink (r.patch UdtcpInfos.hostnameOffset (inetNtoa addr)) :=
    r.sameLink_patch_inetNtoa (by decide) (by decide) addr
  rw [UdtcpInfos.NamesPeer, hsame.tcpAddr, UdtcpInfos.ip_patch_of_le, UdtcpInfos.NamesPeer]
  rw [UdtcpInfos.hostnameOffset, UdtcpInfos.ipOffset]
  omega

private theorem namesPeer_iff {addr : UInt32} {t t' : Thread UdtcpInfos} {tr : Trace posix}
    {u : Unit} (hip : t.self.ip.toList = slice bs UdtcpInfos.ipOffset 16)
    (haddr : t.self.tcpAddr.sAddr = addr)
    (h : Exec (udtcpSetStringInfos (·.tcpAddr)) t tr u t') :
    ∃ key name, tr = [⟨.gethostbyaddr key, name⟩] ∧
      ((∀ text, name = some text → 0 ∉ text) → (t'.self.NamesPeer ↔ SparesNul addr bs name)) := by
  have hbyte {n : Nat} (hn : n < 16) : t.self.ip.toList[n]? = bs[UdtcpInfos.ipOffset + n]? := by
    rw [hip, slice, List.getElem?_take_of_lt hn, List.getElem?_drop]
  have hshort := length_inetNtoa addr
  obtain ⟨name, rfl, hcopy⟩ := exec_udtcpSetStringInfos_cases h
  refine ⟨_, name, rfl, fun hnul ↦ ?_⟩
  cases name with
  | none =>
    obtain rfl := hcopy
    refine (namesPeer_patch_hostname_iff _).trans (namesPeer_patch_ip_iff.trans ?_)
    rw [haddr, hbyte (by omega), SparesNul, and_iff_left fun _ htext ↦ by cases htext]
  | some text =>
    obtain rfl := hcopy
    have htext := hnul text rfl
    rw [SparesNul]
    simp only [Option.some.injEq, forall_eq']
    refine namesPeer_patch_ip_iff.trans ?_
    have hshort' := length_inetNtoa (t.self.patch UdtcpInfos.hostnameOffset text).tcpAddr.sAddr
    rw [ip_patch_hostname_iff htext (by omega)]
    by_cases hlong : text.length ≤ 272
    · have hsame : t.self.SameLink (t.self.patch UdtcpInfos.hostnameOffset text) :=
        t.self.sameLink_patch (Nat.le_refl _) (by rw [UdtcpInfos.hostnameOffset]; omega)
      rw [hsame.tcpAddr, haddr, hbyte (by omega)]
    · exact iff_of_false (fun hboth ↦ by omega) fun hboth ↦ by omega

private theorem must_setStringInfos_introduced {addr : UInt32} {t : Thread UdtcpInfos}
    (hip : t.self.ip.toList = slice bs UdtcpInfos.ipOffset 16)
    (haddr : t.self.tcpAddr.sAddr = addr) :
    Must (written introductionOf) (udtcpSetStringInfos (·.tcpAddr)) t [.met addr, .record bs]
      fun _ t' us ↦ Introduced us t'.self := by
  intro tr u t' us h ha
  obtain ⟨key, name, rfl, hiff⟩ := namesPeer_iff hip haddr h
  exact ⟨addr, bs, name, accepts_recorder.mp ha, hiff⟩

private theorem toList_ip_patch_whole (h : bs.length = UdtcpInfos.sizeof) :
    (r.patch 0 bs).ip.toList = slice bs UdtcpInfos.ipOffset 16 := by
  have hlen : (slice bs UdtcpInfos.ipOffset 16).length = 16 := by
    apply length_slice
    rw [h]
    decide
  rw [r.toList_ip_patch (Nat.zero_le _), Nat.sub_zero, hlen,
    List.drop_eq_nil_of_le (Nat.le_of_eq r.ip.length_toList), List.append_nil]

end

/-! ### The server -/

section

variable {m : Nat} {slot : Nat} {t t' : Thread (UdtcpServer m)} {bs : List UInt8} {addr : UInt32}

private theorem must_registerClient_introduced
    (hip : (t.self.infos slot).ip.toList = slice bs UdtcpInfos.ipOffset 16)
    (haddr : (t.self.infos slot).tcpAddr.sAddr = addr) :
    Must (written introductionOf) (registerClient slot) t [.met addr, .record bs]
      fun _ t' us ↦ Introduced us (t'.self.infos slot) := by
  unfold registerClient
  refine must_self_bind (must_update_bind (must_bind (must_onPart ?_)))
  refine (must_setStringInfos_introduced ?_ ?_).mono fun _ w us hw ↦ ?_
  · rw [UdtcpServer.infos_modifyInfos_self]
    exact hip
  · rw [UdtcpServer.infos_modifyInfos_self]
    exact haddr
  have hend : Introduced us { w.self with tcpPort := htons w.self.tcpAddr.sinPort } := hw
  refine must_update_bind (must_update_bind (must_self_bind ?_))
  refine must_ite (fun _ ↦ must_written_issue fun r ↦ must_update ?_) fun _ ↦ must_update ?_
  · rw [show introductionOf (.callback _) r = none from rfl, Option.toList_none, List.append_nil]
    simpa [UdtcpServer.modifyPollFd] using hend
  · simpa [UdtcpServer.modifyPollFd] using hend

private theorem introductions_initializeConnection {n : Int} {tr : Trace posix} (hslot : 0 < slot)
    (h : Exec (initializeConnection slot) t tr n t') (hn : n ≠ -1) :
    ∃ bs, bs.length = UdtcpInfos.sizeof ∧ introductions tr = [.record bs] ∧
      t'.self.infos slot = handshaken t.self.serverInfos (t.self.infos slot) bs := by
  obtain ⟨sent, rest, rfl, ⟨-, hfail, -⟩ | ⟨polled, rest, ⟨k, rfl, -⟩, rfl, hpolled⟩⟩ :=
    exec_initializeConnection h
  · exact absurd hfail hn
  obtain ⟨-, hfail, -⟩ | ⟨got, rest, -, rfl, ⟨e, -, -, hfail, -⟩ | ⟨bs, t₁, -, -, hfail, -⟩ |
    ⟨bs, rfl, hlen, rfl, -, hself⟩⟩ := hpolled
  · exact absurd hfail hn
  · exact absurd hfail hn
  · exact absurd hfail hn
  refine ⟨bs.val, hlen, ?_, ?_⟩
  · cases polled <;> rfl
  · rw [hself hslot, UdtcpServer.infos_setInfos_self]

/-- **Accepting.** -/
theorem introduced_acceptClient {tr : Trace posix} (hpos : 0 < t.self.pollNfds)
    (h : Exec acceptClient t tr 0 t') :
    Introduced (introductions tr) (t'.self.infos t.self.pollNfds) := by
  rcases exec_acceptClient h with ⟨e, -, hfail, -⟩ | ⟨fd, addr, rest, rfl, hcases⟩
  · cases hfail
  rcases hcases with ⟨-, hfail, -⟩ | ⟨-, t₁, hs₁, hthen⟩
  · cases hfail
  obtain ⟨tr₁, o, t₂, rest, rfl, hopt, hrest⟩ := exec_admitClient hthen
  obtain ⟨hs₂, -, -⟩ := exec_udtcpSocketAddOption hopt
  rcases hrest with ⟨-, hfail, -⟩ | ⟨-, tr₂, k, t₃, tr₃, rfl, hinit, hend⟩
  · cases hfail
  rcases hend with ⟨-, hfail, -⟩ | ⟨hk, -, hreg⟩
  · cases hfail
  obtain ⟨bs, hlen, hrecord, hinfos⟩ := introductions_initializeConnection hpos hinit hk
  rw [hs₂, hs₁, UdtcpServer.infos_modifyInfos_self] at hinfos
  have hshown : introductions (⟨.sys (.accept t.self.serverInfos.tcpSocket), .ok (fd, addr)⟩ ::
      (tr₁ ++ (tr₂ ++ tr₃))) = [.met addr.sAddr, .record bs] ++ introductions tr₃ := by
    have hopt : introductions tr₁ = [] := List.filterMap_eq_nil_iff.mpr
      (emits_udtcpSocketAddOption (P := Unviewed introductionOf) (fun r ↦ by cases r <;> rfl)
        (fun _ r ↦ by cases r <;> rfl) _ _ _ _ hopt)
    have hhead : introductions (⟨.sys (.accept t.self.serverInfos.tcpSocket), .ok (fd, addr)⟩ ::
        (tr₁ ++ (tr₂ ++ tr₃))) = .met addr.sAddr :: introductions (tr₁ ++ (tr₂ ++ tr₃)) := rfl
    rw [hhead, introductions, List.filterMap_append, List.filterMap_append]
    change _ :: (introductions tr₁ ++ (introductions tr₂ ++ introductions tr₃)) = _
    rw [hopt, hrecord]
    rfl
  rw [hshown]
  refine must_registerClient_introduced ?_ ?_ tr₃ () t' _ hreg (accepts_recorder.mpr rfl)
  · rw [hinfos]
    exact toList_ip_patch_whole hlen
  · rw [hinfos]
    rfl

end

/-! ### The client -/

namespace Client

variable {t : Thread UdtcpClient} {us : List Introduction}

private theorem unviewed_prepares (c : SysCall) (r : Except Errno c.Result)
    (hc : c.prepares = true) :
    Unviewed introductionOf ⟨.sys c, r⟩ := by
  cases c
  case accept => cases hc
  case recv => cases hc
  all_goals cases r <;> rfl

private theorem must_initializeConnection_introduced :
    Must (written introductionOf) initializeConnection t us fun result t' us' ↦
      result = .success → ∃ bs, bs.length = UdtcpInfos.sizeof ∧ us' = us ++ [.record bs] ∧
        t'.self.serverInfos = t.self.serverInfos.patch 0 bs := by
  unfold initializeConnection
  refine must_self_bind (must_bind ?_)
  refine must_unviewed_syscall (fun r ↦ by cases r <;> rfl) fun polled ↦ must_pure ?_
  have hself := t.note_self polled
  generalize t.note polled = t₁ at hself
  refine must_ite (fun _ ↦ must_pure nofun) fun _ ↦ must_ite
    (fun _ ↦ must_setErrno_bind (must_pure nofun)) fun _ ↦ must_written_syscall fun got ↦ ?_
  cases got with
  | error e => exact must_pure nofun
  | ok bs =>
    by_cases hlen : bs.val.length = UdtcpInfos.sizeof
    · have hpos : ¬ bs.val.length = 0 := by
        rw [hlen]
        decide
      dsimp only
      rw [writeRecord_of_length hlen]
      refine must_update_bind (must_ite (fun hzero ↦ absurd hzero hpos) fun _ ↦ ?_)
      refine must_ite (fun hne ↦ absurd hlen hne) fun _ ↦ must_self_bind ?_
      refine must_unviewed_syscall (fun r ↦ by cases r <;> rfl) fun sent ↦ ?_
      have hinfos (r : Except Errno {n : Nat // n ≤ t₁.self.clientInfos.encode.length}) :
          (Thread.note ⟨t₁.errno, { t₁.self with
            serverInfos := t₁.self.serverInfos.patch 0 bs.val }⟩ r).self.serverInfos =
              t.self.serverInfos.patch 0 bs.val := by
        rw [Thread.note_self, hself]
      cases sent with
      | error e => exact must_pure nofun
      | ok n =>
        refine must_ite (fun _ ↦ must_pure nofun) fun _ ↦ must_pure fun _ ↦ ?_
        exact ⟨bs.val, hlen, rfl, hinfos (.ok n)⟩
    · refine must_bind fun tr _ t₂ us₂ _ _ ↦ must_ite (fun _ ↦ must_pure nofun) fun _ ↦ ?_
      refine must_ite (fun _ ↦ ?_) fun hsize ↦ absurd (not_not.mp hsize) hlen
      exact must_ite (fun _ ↦ must_pure nofun) fun _ ↦ must_pure nofun

private theorem must_adoptServer_introduced {addr : UInt32} {bs : List UInt8}
    (hip : t.self.serverInfos.ip.toList = slice bs UdtcpInfos.ipOffset 16) :
    Must (written introductionOf) (adoptServer addr) t [.met addr, .record bs]
      fun _ t' us ↦ Introduced us t'.self.serverInfos := by
  unfold adoptServer
  refine must_update_bind (must_bind (must_onPart ?_))
  refine (must_setStringInfos_introduced hip rfl).mono fun _ w us hw ↦ ?_
  refine must_self_bind (must_ite (fun _ ↦ ?_) fun _ ↦ must_pure hw)
  refine must_issue fun r us' hus ↦ ?_
  obtain rfl : us' = us := hus.trans (List.append_nil us)
  exact hw

end Client

/-- **Connecting.** -/
theorem introduced_udtcpConnectClient {hostname : List UInt8} {tcpPort : UInt16} {timeout : Int}
    {t t' : Thread UdtcpClient} {tr : Trace posix}
    (h : Exec (udtcpConnectClient hostname tcpPort timeout) t tr .success t') :
    Introduced (introductions tr) t'.self.serverInfos := by
  have hall : Must (written introductionOf) (udtcpConnectClient hostname tcpPort timeout) t []
      fun result t' us ↦ result = .success → Introduced us t'.self.serverInfos := by
    unfold udtcpConnectClient
    refine must_unviewed_bind (Client.emits_createTcpSocket Client.unviewed_prepares)
      fun _ n t₁ _ ↦ must_ite (fun _ ↦ must_bind fun _ _ _ _ _ _ ↦ must_pure nofun) fun _ ↦ ?_
    refine must_written_request fun host ↦ ?_
    cases host with
    | none => exact must_pure nofun
    | some host =>
      refine must_update_bind (must_unviewed_bind (Client.emits_connectSocket
        Client.unviewed_prepares _ _ fun fd r ↦ by cases r <;> rfl) fun tr₂ o t₂ hconnect ↦ ?_)
      obtain ⟨ds, hseen⟩ : ∃ ds, dialRecorder.Accepts [] tr₂ ds := ⟨_, accepts_recorder.mpr rfl⟩
      have ho : o ≠ some .success := (Client.must_connectSocket tr₂ o t₂ ds hconnect hseen).1
      cases o with
      | some result => exact must_pure fun hsuccess ↦ absurd (congrArg some hsuccess) ho
      | none =>
        refine must_bind (Client.must_initializeConnection_introduced.mono ?_)
        intro result t₃ us₃ hinit
        have hfail (result : UdtcpConnect) (hne : result ≠ .success) :
            Must (written introductionOf) (do Client.closeTcpSocket; return result) t₃ us₃
              fun result t' us ↦ result = .success → Introduced us t'.self.serverInfos :=
          must_bind fun _ _ _ _ _ _ ↦ must_pure fun hsuccess ↦ absurd hsuccess hne
        cases result with
        | success =>
          obtain ⟨bs, hlen, rfl, hinfos⟩ := hinit rfl
          refine must_bind ((Client.must_adoptServer_introduced ?_).mono ?_)
          · rw [hinfos]
            exact toList_ip_patch_whole hlen
          · exact fun _ _ _ hdone ↦ must_pure fun _ ↦ hdone
        | error => exact hfail _ nofun
        | timeout => exact hfail _ nofun
        | tooMany => exact hfail _ nofun
  exact exec_written hall h rfl

/-! ### Handshakes that happen -/

private theorem Introduced.namesPeer_iff_of_unnamed {us : List Introduction} {r : UdtcpInfos}
    {addr : UInt32}
    {bs : List UInt8} (h : Introduced us r) (hus : us = [.met addr, .record bs, .named none]) :
    r.NamesPeer ↔ SparesNul addr bs none := by
  obtain ⟨addr', bs', name, hus', hiff⟩ := h
  rw [hus] at hus'
  cases hus'
  exact hiff nofun

private theorem may_meetClient (addr : SockaddrIn) {bs : List UInt8}
    (hbs : bs.length = UdtcpInfos.sizeof) :
    ∃ (tr : Trace posix) (t' : Thread (UdtcpServer 42)),
      Exec acceptClient ⟨.other 0, .listening 3 4⟩ tr 0 t' ∧
      introductions tr = [.met addr.sAddr, .record bs, .named none] := by
  obtain ⟨tr, n, t', h, rfl, -, key, r, rfl⟩ := may_acceptClient
    (t := (⟨.other 0, .listening 3 4⟩ : Thread (UdtcpServer 42))) (by decide) (by decide)
    ⟨5, by decide⟩ addr bs hbs
  exact ⟨_, t', h, rfl⟩

private theorem may_meetServer (addr : UInt32) {bs : List UInt8}
    (hbs : bs.length = UdtcpInfos.sizeof) :
    ∃ (tr : Trace posix) (t' : Thread UdtcpClient),
      Exec (udtcpConnectClient [] 0 0) ⟨.other 0, .zero 0⟩ tr .success t' ∧
      introductions tr = [.met addr, .record bs, .named none] := by
  obtain ⟨tr, result, t', h, rfl, key, r, rfl, -⟩ := may_udtcpConnectClient
    (⟨.other 0, .zero 0⟩ : Thread UdtcpClient) ⟨5, by decide⟩ addr hbs
  exact ⟨_, t', h, rfl⟩

/-- The record of a peer that calls itself `192.168.1.100`. -/
def longIpRecord : UdtcpInfos :=
  { UdtcpInfos.zero with ip := #v[49, 57, 50, 46, 49, 54, 56, 46, 49, 46, 49, 48, 48, 0, 0, 0] }

/-- The address `10.0.0.5`, port 80. -/
def shortAddr : SockaddrIn := ⟨2, 0x5000, 0x0500000a, .replicate 8 0⟩

/-- **The text of an address.** Behind a successful handshake `ip` reads as the dotted form of the
address in `tcp_addr` if and only if the peer's record has a NUL where that text ends and the name
of the address does not reach that place. -/
theorem ip_names_peer_iff (m : Nat) :
    (∀ (t t' : Thread (UdtcpServer m)) tr, 0 < t.self.pollNfds → Exec acceptClient t tr 0 t' →
      ∃ addr bs name, introductions tr = [.met addr, .record bs, .named name] ∧
        ((∀ text, name = some text → 0 ∉ text) →
          ((t'.self.infos t.self.pollNfds).NamesPeer ↔ SparesNul addr bs name))) ∧
    (∀ hostname tcpPort timeout (t t' : Thread UdtcpClient) tr,
      Exec (udtcpConnectClient hostname tcpPort timeout) t tr .success t' →
      ∃ addr bs name, introductions tr = [.met addr, .record bs, .named name] ∧
        ((∀ text, name = some text → 0 ∉ text) →
          (t'.self.serverInfos.NamesPeer ↔ SparesNul addr bs name))) :=
  ⟨fun _ _ _ hpos h ↦ introduced_acceptClient hpos h,
    fun _ _ _ _ _ _ h ↦ introduced_udtcpConnectClient h⟩

/-- The record of a peer that calls itself `1.2.3.4`. -/
def shortIpRecord : UdtcpInfos :=
  { UdtcpInfos.zero with ip := #v[49, 46, 50, 46, 51, 46, 52, 0, 0, 0, 0, 0, 0, 0, 0, 0] }

/-- Peers met at `10.0.0.5` that call themselves `1.2.3.4`. -/
theorem ip_names_peer_short :
    (∃ (t t' : Thread (UdtcpServer 42)) (tr : Trace posix), Exec acceptClient t tr 0 t' ∧
      introductions tr = [.met shortAddr.sAddr, .record shortIpRecord.encode, .named none] ∧
      (t'.self.infos t.self.pollNfds).NamesPeer) ∧
    ∃ (t t' : Thread UdtcpClient) (tr : Trace posix),
      Exec (udtcpConnectClient [] 0 0) t tr .success t' ∧
      introductions tr = [.met shortAddr.sAddr, .record shortIpRecord.encode, .named none] ∧
      t'.self.serverInfos.NamesPeer := by
  have hlen : shortIpRecord.encode.length = UdtcpInfos.sizeof := UdtcpInfos.length_encode _
  have hspared : SparesNul shortAddr.sAddr shortIpRecord.encode none := ⟨by decide, nofun⟩
  constructor
  · obtain ⟨tr, t', h, hus⟩ := may_meetClient shortAddr hlen
    have hmet : Introduced (introductions tr) _ := (ip_names_peer_iff 42).1 _ t' tr (by decide) h
    exact ⟨_, t', tr, h, hus, (hmet.namesPeer_iff_of_unnamed hus).mpr hspared⟩
  · obtain ⟨tr, t', h, hus⟩ := may_meetServer shortAddr.sAddr hlen
    have hmet : Introduced (introductions tr) _ := (ip_names_peer_iff 42).2 _ _ _ _ t' tr h
    exact ⟨_, t', tr, h, hus, (hmet.namesPeer_iff_of_unnamed hus).mpr hspared⟩

/-- **The defect.** A peer met at `10.0.0.5` that calls itself `192.168.1.100` is known by another
address; so is a server met at `0.0.0.0` that does. -/
theorem ip_misnames_peer :
    (∃ (t t' : Thread (UdtcpServer 42)) (tr : Trace posix), t.self = .listening 3 4 ∧
      Exec acceptClient t tr 0 t' ∧
      introductions tr = [.met shortAddr.sAddr, .record longIpRecord.encode, .named none] ∧
      ¬ (t'.self.infos t.self.pollNfds).NamesPeer) ∧
    ∃ (t t' : Thread UdtcpClient) (tr : Trace posix),
      Exec (udtcpConnectClient [] 0 0) t tr .success t' ∧
      introductions tr = [.met 0, .record longIpRecord.encode, .named none] ∧
      ¬ t'.self.serverInfos.NamesPeer := by
  have hlen : longIpRecord.encode.length = UdtcpInfos.sizeof := UdtcpInfos.length_encode _
  constructor
  · obtain ⟨tr, t', h, hus⟩ := may_meetClient shortAddr hlen
    have hiff := (introduced_acceptClient (by decide) h).namesPeer_iff_of_unnamed hus
    refine ⟨_, t', tr, rfl, h, hus, fun hnames ↦ ?_⟩
    exact absurd (hiff.mp hnames).1 (by decide)
  · obtain ⟨tr, t', h, hus⟩ := may_meetServer 0 hlen
    have hiff := (introduced_udtcpConnectClient h).namesPeer_iff_of_unnamed hus
    refine ⟨_, t', tr, h, hus, fun hnames ↦ ?_⟩
    exact absurd (hiff.mp hnames).1 (by decide)

end Udtcp
