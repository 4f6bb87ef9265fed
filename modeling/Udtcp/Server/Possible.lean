import Udtcp.Server.Accept
import Udtcp.Server.Buffer
import Udtcp.Server.Create
import Udtcp.Server.Rounds

/-!
# Passes that can happen

A creation in which every call succeeds, and passes built from their parts: a pass in which a
single slot is ready, an accept whose handshake completes, a client that closes its connection.
-/

namespace Udtcp

open Interaction Routine

section

variable {τ : Type} {α : Type}

/-- A drain loop that finds `poll_loop` cleared behind its first round. -/
theorem may_drain {body : Proc τ Int} {t : Thread τ} {Q : Trace posix → Int → Thread τ → Prop}
    (fuel : Nat) (again : Int → Bool)
    (h : May body t fun tr n t' ↦ Q (tr ++ [⟨.pollLoop, false⟩]) n t') :
    May (drain (fuel + 1) body again) t Q := by
  refine may_bind (h.mono fun tr n t' hq ↦ ?_)
  exact may_bind (may_request_bind false (may_pure (may_pure hq)))

/-- A text that fits can be copied. -/
theorem may_copyText {t : Thread UdtcpInfos} {Q : Trace posix → Unit → Thread UdtcpInfos → Prop}
    {offset : Nat} {text : List UInt8} (h : offset + text.length ≤ UdtcpInfos.sizeof)
    (hq : Q [] () { t with self := t.self.patch offset text }) : May (copyText offset text) t Q :=
  may_if_pos h (may_update hq)

/-- An address without a name. -/
theorem may_udtcpSetStringInfos (t : Thread UdtcpInfos) (addr : UdtcpInfos → SockaddrIn) :
    May (udtcpSetStringInfos addr) t fun tr _ t' ↦
      tr = [⟨.gethostbyaddr ((addr t.self).encode.take 4), none⟩] ∧ t'.errno = t.errno := by
  have hip := length_inetNtoa (addr t.self).sAddr
  have h₁ : UdtcpInfos.ipOffset + (inetNtoa (addr t.self).sAddr).length ≤ UdtcpInfos.sizeof := by
    simp only [UdtcpInfos.ipOffset, UdtcpInfos.sizeof]
    omega
  have h₂ : UdtcpInfos.hostnameOffset + (inetNtoa (addr t.self).sAddr).length ≤
      UdtcpInfos.sizeof := by
    simp only [UdtcpInfos.hostnameOffset, UdtcpInfos.sizeof]
    omega
  refine may_self_bind (may_request_bind none (may_self_bind ?_))
  exact may_bind (may_copyText h₁ (may_copyText h₂ ⟨rfl, rfl⟩))

end

section

variable {m : Nat} {t : Thread (UdtcpServer m)}

/-- A record of zeros. -/
def blankRecord : {bs : List UInt8 // bs.length ≤ UdtcpInfos.sizeof + 1} :=
  ⟨List.replicate UdtcpInfos.sizeof 0, by rw [List.length_replicate]; exact Nat.le_succ _⟩

/-- A blank record has the length of one. -/
theorem length_blankRecord : blankRecord.val.length = UdtcpInfos.sizeof := List.length_replicate ..

/-- A whole record is written as it is. -/
theorem writeRecord_of_length (slot : Nat) {bs : List UInt8} (hbs : bs.length = UdtcpInfos.sizeof) :
    (writeRecord slot bs : ServerProc m Unit) = update (·.modifyInfos slot (·.patch 0 bs)) := by
  have hnone : bs[UdtcpInfos.sizeof]? = none := List.getElem?_eq_none (Nat.le_of_eq hbs)
  unfold writeRecord
  rw [hnone]
  exact bind_pure _

/-- The calls of a handshake on `fd` that completes with the peer's record `bs`. -/
def handshakeCalls (server : UdtcpInfos) (fd : Fd) (bs : List UInt8)
    (hbs : bs.length = UdtcpInfos.sizeof) : Trace posix := [
  ⟨.sys (.send fd server.encode),
    .ok ⟨UdtcpInfos.sizeof, Nat.le_of_eq (UdtcpInfos.length_encode _).symm⟩⟩,
  ⟨.sys (.poll [⟨fd, POLLIN, 0⟩] (-1)), .ok (Vector.replicate 1 POLLIN)⟩,
  ⟨.sys (.recv fd .record (UdtcpInfos.sizeof + 1)), .ok ⟨bs, UdtcpInfos.length_le_of_record hbs⟩⟩]

/-- A handshake that completes. -/
theorem may_initializeConnection (t : Thread (UdtcpServer m)) (slot : Nat) (bs : List UInt8)
    (hbs : bs.length = UdtcpInfos.sizeof) :
    May (initializeConnection slot) t fun tr n t' ↦ n = 0 ∧
      tr = handshakeCalls t.self.serverInfos (t.self.infos slot).tcpSocket bs hbs ∧
      t'.errno = t.errno ∧ t'.self.connectCallback = t.self.connectCallback := by
  have hsize : UdtcpInfos.sizeof ≤ t.self.serverInfos.encode.length :=
    Nat.le_of_eq (UdtcpInfos.length_encode _).symm
  unfold initializeConnection
  refine may_self_bind (may_syscall_bind (.ok ⟨UdtcpInfos.sizeof, hsize⟩) ?_)
  refine may_if_neg (by simp) (may_bind (may_syscall_bind (.ok (Vector.replicate 1 POLLIN))
    (may_pure ?_)))
  refine may_if_neg (show ¬ (1 : Int) ≤ 0 by decide) (may_self_bind ?_)
  refine may_syscall_bind (.ok ⟨bs, UdtcpInfos.length_le_of_record hbs⟩) ?_
  dsimp only
  rw [writeRecord_of_length slot hbs]
  refine may_update_bind (may_if_neg (not_not.mpr hbs) (may_self_bind (may_update_bind ?_)))
  exact may_pure ⟨rfl, rfl, rfl, rfl⟩

/-- The announcement of a client, if a callback is there. -/
def welcome (callback : Bool) (slot : Nat) (r : UdtcpInfos) : Trace posix :=
  if callback then [⟨.callback (.connect slot r), ()⟩] else []

/-- Entering a client whose address has no name. -/
theorem may_registerClient (t : Thread (UdtcpServer m)) (slot : Nat) :
    May (registerClient slot) t fun tr _ t' ↦ t'.errno = t.errno ∧
      ∃ key r, tr = ⟨.gethostbyaddr key, none⟩ :: welcome t.self.connectCallback slot r := by
  unfold registerClient
  refine may_self_bind (may_update_bind (may_bind (may_onPart ?_)))
  refine (may_udtcpSetStringInfos _ _).mono fun tr _ u ⟨htr, herrno⟩ ↦ ?_
  obtain ⟨key, rfl⟩ : ∃ key, tr = [⟨.gethostbyaddr key, none⟩] := ⟨_, htr⟩
  refine may_update_bind (may_update_bind (may_self_bind ?_))
  cases hcb : t.self.connectCallback with
  | false =>
    exact may_if_neg (by rw [Bool.not_eq_true]; exact hcb) (may_update ⟨herrno, key, .zero, rfl⟩)
  | true =>
    exact may_if_pos hcb (may_issue_bind () (may_update ⟨herrno, key, _, rfl⟩))

/-- The calls of an accept that succeeds, up to the announcement. -/
def acceptCalls (server : UdtcpInfos) (fd : Descriptor) (addr : SockaddrIn) (bs : List UInt8)
    (hbs : bs.length = UdtcpInfos.sizeof) (key : List UInt8) : Trace posix := [
  ⟨.sys (.accept server.tcpSocket), .ok (fd, addr)⟩,
  ⟨.sys (.getfl fd.val), .ok (0 : Nat)⟩,
  ⟨.sys (.setfl fd.val (Nat.lor 0 O_NONBLOCK)), .ok ()⟩] ++ handshakeCalls server fd.val bs hbs ++
  [⟨.gethostbyaddr key, none⟩]

/-- What is seen of the calls of an accept. -/
theorem sightings_acceptCalls {server : UdtcpInfos} {fd : Descriptor} {addr : SockaddrIn}
    {bs : List UInt8} {hbs : bs.length = UdtcpInfos.sizeof} {key : List UInt8} {callback : Bool}
    {slot : Nat} {r : UdtcpInfos} :
    sightings (acceptCalls server fd addr bs hbs key ++ welcome callback slot r) =
      .accepted fd.val addr :: .record fd.val bs :: entrySightings none callback slot r := by
  cases callback <;> rfl

/-- **An accept that succeeds**, of any descriptor and with any record, when the table has room. -/
theorem may_acceptClient (hpos : 0 < t.self.pollNfds) (hfree : t.self.pollNfds < pollTableSize m)
    (fd : Descriptor) (addr : SockaddrIn) (bs : List UInt8) (hbs : bs.length = UdtcpInfos.sizeof) :
    May acceptClient t fun tr n t' ↦ n = 0 ∧ t'.errno = t.errno ∧ ∃ key r,
      tr = acceptCalls t.self.serverInfos fd addr bs hbs key ++
        welcome t.self.connectCallback t.self.pollNfds r := by
  unfold acceptClient
  refine may_self_bind (may_if_neg (Nat.not_le.mpr hfree) ?_)
  refine may_syscall_bind (.ok (fd, addr)) (may_update_bind ?_)
  generalize hs : UdtcpServer.modifyInfos _ _ _ = s
  have hfd : (s.infos t.self.pollNfds).tcpSocket = fd.val := by
    rw [← hs, UdtcpServer.infos_modifyInfos_self]
  have hcb : s.connectCallback = t.self.connectCallback := by
    rw [← hs]
    rfl
  have hserver : s.serverInfos = t.self.serverInfos := by
    rw [← hs]
    exact UdtcpServer.serverInfos_modifyInfos _ _ hpos
  unfold admitClient
  refine may_self_bind ?_
  dsimp only
  rw [hfd]
  refine may_bind (may_syscall_bind (.ok (0 : Nat)) (may_syscall_bind (.ok ()) ?_))
  refine may_pure (may_if_neg (by decide) (may_bind ?_))
  refine (may_initializeConnection _ _ bs hbs).mono fun tr₁ n t₁ ⟨hn, htr₁, herr₁, hcb₁⟩ ↦ ?_
  subst hn
  refine may_if_neg (by decide) (may_bind ?_)
  refine (may_registerClient t₁ _).mono fun tr₂ _ t₂ ⟨herr₂, key, r, htr₂⟩ ↦ ?_
  refine may_pure ⟨rfl, herr₂.trans herr₁, key, r, ?_⟩
  rw [htr₂, htr₁, hcb₁, List.append_nil]
  simp only [Thread.note_self, hfd, hcb, hserver]
  rfl

/-- A client that has closed its connection is disconnected. -/
theorem may_serveClient (t : Thread (UdtcpServer m)) (fuel slot : Nat) :
    May (serveClient (fuel + 1) slot) t fun tr marked t' ↦ marked = true ∧ t'.errno = t.errno ∧
      sightings tr = [.shut (t.self.infos slot).tcpSocket,
        .closed (t.self.infos slot).tcpSocket] := by
  unfold serveClient
  refine may_bind (may_drain fuel _ ?_)
  refine may_self_bind (may_onPart (may_syscall_bind (.ok ⟨[], Nat.zero_le _⟩) ?_))
  refine may_if_pos rfl (may_pure ?_)
  refine may_if_neg (by decide) (may_if_pos rfl (may_bind ?_))
  unfold dropClient disconnect
  refine may_bind (may_self_bind (may_syscall_bind (.ok ()) ?_))
  refine may_self_bind (may_syscall_bind (.ok ()) (may_self_bind ?_))
  by_cases hcb : t.self.disconnectCallback = true
  · refine may_if_pos hcb (may_issue () (may_update (may_pure ?_)))
    exact ⟨rfl, rfl, rfl⟩
  · refine may_if_neg hcb (may_pure (may_update (may_pure ?_)))
    exact ⟨rfl, rfl, rfl⟩

/-- Readiness of a single slot. -/
def onlyReady (slot i : Nat) : UInt16 := if i = slot then POLLIN else 0

private theorem may_scan {Q : List Sighting → ReceiveBuffer → Prop} {fuel slot : Nat}
    (hslot : slot < t.self.pollNfds) (hready : ∀ i < slot, (t.self.pollFds i).revents = 0)
    (hserve : May (serveSlot fuel slot) t fun tr _ t' ↦ Q (sightings tr) t'.self.buffer) (d : Nat) :
    ∀ i n : Nat, i + d = slot → d + 2 ≤ n → May (Routine.loop (scanSlot fuel) n (i, false)) t
      fun tr _ t' ↦ Q (sightings tr) t'.self.buffer := by
  induction d with
  | zero =>
    intro i n hi hn
    obtain ⟨n, rfl⟩ : ∃ k, n = k + 2 := ⟨n - 2, by omega⟩
    obtain rfl : i = slot := hi
    refine may_bind (may_request_bind true (may_self_bind (may_if_pos ?_ (may_bind ?_))))
    · simpa using hslot
    refine hserve.mono fun tr marked t' hq ↦ may_pure ?_
    refine may_bind (may_request_bind false (may_self_bind (may_if_neg (by simp) ?_)))
    refine may_pure (may_pure ?_)
    simpa [sightings_cons, sightingOf] using hq
  | succ d ih =>
    intro i n hi hn
    obtain ⟨n, rfl⟩ : ∃ k, n = k + 1 := ⟨n - 1, by omega⟩
    refine may_bind (may_request_bind true (may_self_bind (may_if_pos ?_ (may_bind ?_))))
    · simp only [Bool.true_and, decide_eq_true_eq]
      omega
    refine may_self_bind (may_if_pos (hready i (by omega)) (may_pure (may_pure ?_)))
    refine (ih (i + 1) n (by omega) (by omega)).mono fun tr a t' hq ↦ ?_
    simpa [sightings_cons, sightingOf] using hq

/-- **A pass in which one slot is ready** and `poll_loop` is cleared behind it. -/
theorem may_udtcpServerPoll {Q : List Sighting → ReceiveBuffer → Prop} {slot : Nat}
    (hslot : slot < t.self.pollNfds)
    (hserve : May (serveSlot (slot + 2) slot) ⟨t.errno, t.self.setRevents (onlyReady slot)⟩
      fun tr _ t' ↦ Q (sightings tr) t'.self.buffer) :
    May (udtcpServerPoll (slot + 2) 0) t fun tr _ t' ↦ Q (sightings tr) t'.self.buffer := by
  have hlen : t.self.polled.length = t.self.pollNfds := by simp [UdtcpServer.polled]
  let flags : Vector UInt16 t.self.polled.length := .ofFn fun i ↦ onlyReady slot i.val
  let reply : (SysCall.poll t.self.polled 0).Result := flags
  have hat (i : Nat) (hi : i < t.self.pollNfds) : reventsAt reply i = onlyReady slot i := by
    have hi' : i < t.self.polled.length := by rw [hlen]; exact hi
    change (flags[i]?).getD 0 = _
    rw [Vector.getElem?_eq_getElem hi', Vector.getElem_ofFn]
    rfl
  have hrevents : t.self.setRevents (reventsAt reply) = t.self.setRevents (onlyReady slot) := by
    unfold UdtcpServer.setRevents
    congr 1
    funext i
    split
    · next hi => rw [hat i hi]
    · rfl
  have hcount : pollCount (.ok reply) ≠ 0 := by
    have hmem : POLLIN ∈ flags.toList.filter (· ≠ 0) := by
      refine List.mem_filter.mpr ⟨?_, by decide⟩
      rw [Vector.mem_toList_iff]
      have hslot' : slot < t.self.polled.length := by rw [hlen]; exact hslot
      have hself : flags[slot] = POLLIN := by
        rw [Vector.getElem_ofFn]
        exact if_pos rfl
      exact hself ▸ Vector.getElem_mem hslot'
    have hpos := List.length_pos_of_mem hmem
    change ((flags.toList.filter (· ≠ 0)).length : Int) ≠ 0
    omega
  have hready : ∀ i < slot, ((t.self.setRevents (onlyReady slot)).pollFds i).revents = 0 := by
    intro i hi
    have hlt : i < t.self.pollNfds := by omega
    have hne : i ≠ slot := by omega
    simp [UdtcpServer.setRevents, hlt, onlyReady, hne]
  have hscan := may_scan (t := ⟨t.errno, t.self.setRevents (onlyReady slot)⟩) hslot hready hserve
    slot 0 (slot + 2) (by omega) (by omega)
  unfold udtcpServerPoll
  refine may_self_bind (may_syscall_bind (.ok reply) (may_update_bind (may_if_neg hcount ?_)))
  rw [Thread.note_ok, hrevents]
  refine may_bind (hscan.mono fun tr organise t' hq ↦ ?_)
  have hseen : Q (sightings (⟨.sys (.poll t.self.polled 0), .ok reply⟩ :: (tr ++ [])))
      t'.self.buffer := by
    rw [sightings_cons, List.append_nil]
    exact hq
  cases organise with
  | true =>
    rw [← (compact_keeps t'.self).1] at hseen
    exact may_if_pos rfl (may_update_bind (may_pure hseen))
  | false => exact may_if_neg (by decide) (may_pure hseen)

/-! ### Creation -/

namespace Server

private theorem may_clearSends (s : UdtcpServer m) (t : Thread (UdtcpServer m)) (is : List Nat) :
    May (clearSends s is) t fun tr _ _ ↦ sightings tr = [] := by
  induction is with
  | nil => exact may_pure rfl
  | cons i is ih =>
    refine may_issue_bind () (ih.mono fun tr _ _ hseen ↦ ?_)
    rw [sightings_cons, hseen]
    rfl

private theorem may_initMutexes (s : UdtcpServer m) (t : Thread (UdtcpServer m)) (is : List Nat) :
    May (initMutexes s is) t fun tr o _ ↦ o = none ∧ sightings tr = [] := by
  induction is with
  | nil => exact may_pure ⟨rfl, rfl⟩
  | cons i is ih =>
    refine may_request_bind true (may_if_pos rfl (ih.mono fun tr o _ ⟨ho, hseen⟩ ↦ ⟨ho, ?_⟩))
    rw [sightings_cons, hseen]
    rfl

private theorem may_bindSocket {fd : Fd} {addr : SockaddrIn}
    {k : Option SockaddrIn → ServerProc m Int} {Q : List Sighting → Int → Prop}
    (h : May (k (some .zero)) t fun tr n _ ↦ Q (sightings tr) n) :
    May (bindSocket fd addr >>= k) t fun tr n _ ↦ Q (sightings tr) n :=
  may_bind (may_syscall_bind (.ok ()) (may_syscall_bind (.ok .zero) (may_pure h)))

private theorem may_addOption {fd : Fd} {k : Int → ServerProc m Int}
    {Q : List Sighting → Int → Prop}
    (h : May (k 0) t fun tr n _ ↦ Q (sightings tr) n) :
    May (udtcpSocketAddOption fd O_NONBLOCK >>= k) t fun tr n _ ↦ Q (sightings tr) n :=
  may_bind (may_syscall_bind (.ok (0 : Nat)) (may_syscall_bind (.ok ()) (may_pure h)))

private theorem may_bindSockets (t : Thread (UdtcpServer m)) (host : Hostent) (p q r : UInt16) :
    May (bindSockets host p q r) t fun tr n _ ↦ n = 0 ∧ sightings tr = [] := by
  unfold bindSockets
  refine may_update_bind (may_self_bind (may_self_bind (may_bindSocket
    (Q := fun xs n ↦ n = 0 ∧ xs = []) ?_)))
  refine may_update_bind (may_self_bind (may_self_bind (may_bindSocket
    (Q := fun xs n ↦ n = 0 ∧ xs = []) ?_)))
  refine may_update_bind (may_self_bind (may_self_bind (may_bindSocket
    (Q := fun xs n ↦ n = 0 ∧ xs = []) ?_)))
  unfold listenServer
  refine may_update_bind (may_update_bind (may_self_bind (may_syscall_bind (.ok ()) ?_)))
  refine may_self_bind (may_addOption (Q := fun xs n ↦ n = 0 ∧ xs = []) (may_if_neg (by decide) ?_))
  refine may_self_bind (may_addOption (Q := fun xs n ↦ n = 0 ∧ xs = []) (may_if_neg (by decide) ?_))
  unfold finishServer
  refine may_update_bind (may_bind (may_onPart ?_))
  refine (may_udtcpSetStringInfos _ _).mono fun tr _ u ⟨htr, _⟩ ↦ ?_
  refine may_update_bind (may_pure ⟨rfl, ?_⟩)
  rw [htr]
  rfl

end Server

/-- **A creation that succeeds**, with any three descriptors. -/
theorem may_udtcpCreateServer (t : Thread (UdtcpServer m)) (tcp udp other : Descriptor) :
    May (udtcpCreateServer [] 0 0 0) t fun tr n _ ↦ n = 0 ∧
      sightings tr = [.opened tcp.val, .opened udp.val, .opened other.val] := by
  unfold udtcpCreateServer
  refine may_request_bind (some ⟨[], 0⟩) (may_syscall_bind (.ok (0 : UInt64)) ?_)
  refine may_update_bind (may_self_bind (may_bind ?_))
  refine (Server.may_clearSends _ _ _).mono fun tr₁ _ t₁ hseen₁ ↦ may_bind ?_
  refine (Server.may_initMutexes _ _ _).mono fun tr₂ o t₂ ⟨ho, hseen₂⟩ ↦ ?_
  subst ho
  unfold Server.openSockets
  refine may_syscall_bind (.ok tcp) (may_update_bind (may_update_bind (may_update_bind ?_)))
  refine may_syscall_bind (.ok udp) (may_update_bind (may_update_bind (may_update_bind ?_)))
  refine may_syscall_bind (.ok other) (may_update_bind ?_)
  refine (Server.may_bindSockets _ _ _ _ _).mono fun tr₃ n _ ⟨hn, hseen₃⟩ ↦ ⟨hn, ?_⟩
  simp only [sightings_cons, sightings_append, hseen₁, hseen₂, hseen₃]
  rfl

end

end Udtcp
