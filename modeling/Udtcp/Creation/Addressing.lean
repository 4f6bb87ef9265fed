import Udtcp.Posix.Recorded
import Udtcp.Server.Possible

/-!
# Which addresses are bound

The host lookups, binds and name queries of `udtcp_create_server` (`create_server.c:56–209`),
`udtcp_create_client` (`create_client.c:56–216`) and `udtcp_connect_client`
(`connect_client.c:173–195`), and what becomes of the three port fields.
-/

namespace Udtcp

open Interaction Routine Bytes

/-- What is seen of addresses: the host found for a name, addresses bound, addresses a socket
reports, addresses dialled, and names found for addresses. -/
inductive Addressing where
  | resolved (host : Hostent)
  | bound (addr : SockaddrIn)
  | reported (addr : SockaddrIn)
  | dialed (addr : SockaddrIn)
  | named (text : List UInt8)
  deriving DecidableEq, Repr

/-- What is seen of a call, if anything. -/
def addressingOf : (c : Call) → c.Reply → Option Addressing
  | .gethostbyname _, some host => some (.resolved host)
  | .sys (.bind _ addr), _ => some (.bound addr)
  | .sys (.getsockname _), .ok addr => some (.reported addr)
  | .sys (.connect _ addr), _ => some (.dialed addr)
  | .gethostbyaddr _, some text => some (.named text)
  | _, _ => none

/-- What is seen of a trace, oldest first. -/
def addressings (tr : Trace posix) : List Addressing :=
  tr.filterMap fun e ↦ addressingOf e.call e.reply

/-- What an event of a trace shows is shown of the trace. -/
theorem mem_addressings {u : Addressing} {e : Event posix} {tr : Trace posix} (he : e ∈ tr)
    (hu : addressingOf e.call e.reply = some u) : u ∈ addressings tr :=
  List.mem_filterMap.mpr ⟨e, he, hu⟩

/-- The number a port in network order stands for: its first byte in memory is the high one. -/
def hostOrder (port : UInt16) : UInt16 :=
  UInt16.ofNat (256 * (port.toNat % 256) + port.toNat / 256)

/-- `htons` gives the number a port field stands for. -/
theorem htons_eq_hostOrder (port : UInt16) : htons port = hostOrder port := by
  have hlt := port.toNat_lt
  apply UInt16.toNat_inj.mp
  have hor : port.toNat % 256 * 2 ^ 8 ||| port.toNat / 256 =
      port.toNat % 256 * 2 ^ 8 + port.toNat / 256 := by
    rw [← Nat.shiftLeft_eq, Nat.shiftLeft_add_eq_or_of_lt (by omega)]
  have hhigh : port.toNat * 2 ^ 8 % 2 ^ 16 = port.toNat % 256 * 2 ^ 8 := by omega
  simp only [htons, hostOrder, UInt16.toNat_or, UInt16.toNat_shiftLeft, UInt16.toNat_shiftRight,
    UInt16.toNat_ofNat', show UInt16.toNat 8 % 16 = 8 from rfl]
  rw [Nat.shiftLeft_eq, hhigh, Nat.shiftRight_eq_div_pow, hor]
  omega

/-! ### The port fields -/

namespace UdtcpInfos

/-- The three port fields. -/
def ports (r : UdtcpInfos) : List UInt16 := [r.tcpPort, r.udpServerPort, r.udpClientPort]

/-- Offset of `tcp_port` in the record; the other two port fields follow it. -/
def portsOffset : Nat := 340

/-- What the text has at the places of the port fields, when it is written over `hostname`, are
the first bytes of `ports`. -/
def SparesPorts (text : List UInt8) (ports : List UInt16) : Prop :=
  ∀ i port, ports[i]? = some port →
    slice text (portsOffset - hostnameOffset + 2 * i) 2 <+: Codec.u16.encode port

private theorem sparesPorts_iff {text : List UInt8} {p q r : UInt16} : SparesPorts text [p, q, r] ↔
    slice text 332 2 <+: Codec.u16.encode p ∧ slice text 334 2 <+: Codec.u16.encode q ∧
      slice text 336 2 <+: Codec.u16.encode r := by
  constructor
  · intro h
    exact ⟨h 0 p rfl, h 1 q rfl, h 2 r rfl⟩
  · rintro ⟨hp, hq, hr⟩ i port hi
    match i with
    | 0 => exact Option.some.inj hi ▸ hp
    | 1 => exact Option.some.inj hi ▸ hq
    | 2 => exact Option.some.inj hi ▸ hr
    | i + 3 => cases hi

/-- A name keeps the ports it does not write over. -/
theorem ports_patch_hostname_eq_iff (r : UdtcpInfos) (text : List UInt8) :
    (r.patch hostnameOffset text).ports = r.ports ↔ SparesPorts text r.ports := by
  have htcp := field_patch_hostname_eq_iff (f := tcpPort) Codec.exact_u16 (fun _ ↦ rfl)
    (by decide) (by decide) r text
  have hserver := field_patch_hostname_eq_iff (f := udpServerPort) Codec.exact_u16 (fun _ ↦ rfl)
    (by decide) (by decide) r text
  have hclient := field_patch_hostname_eq_iff (f := udpClientPort) Codec.exact_u16 (fun _ ↦ rfl)
    (by decide) (by decide) r text
  rw [ports, ports, sparesPorts_iff]
  simp only [List.cons.injEq, and_true]
  rw [htcp, hserver, hclient]
  rfl

/-- A text that ends before the port fields leaves them alone. -/
theorem ports_patch_of_le (r : UdtcpInfos) {off : Nat} {text : List UInt8}
    (h : off + text.length ≤ portsOffset) : (r.patch off text).ports = r.ports := by
  have hoff : off ≤ sizeof := by
    simp only [portsOffset, sizeof] at h ⊢
    omega
  have hfield (f : UdtcpInfos → UInt16) (o : Nat) (hf : ∀ l, f (decode l) = Codec.u16.readAt l o)
      (ho : portsOffset ≤ o) : f (r.patch off text) = f r := by
    have hlen : (text.take (sizeof - off)).length ≤ text.length := List.length_take_le' _ _
    rw [patch, hf, Codec.readAt_patch_after _ (by omega) (by rw [length_encode]; exact hoff), ← hf,
      decode_encode]
  simp only [ports, hfield tcpPort 340 (fun _ ↦ rfl) (Nat.le_refl _),
    hfield udpServerPort 342 (fun _ ↦ rfl) (by decide),
    hfield udpClientPort 344 (fun _ ↦ rfl) (by decide)]

/-- The text of an address, over `ip` or over `hostname`, ends before the port fields. -/
theorem ports_patch_inetNtoa (r : UdtcpInfos) {off : Nat} (h : off ≤ ipOffset) (addr : UInt32) :
    (r.patch off (inetNtoa addr)).ports = r.ports := by
  have hlen := length_inetNtoa addr
  apply ports_patch_of_le
  simp only [ipOffset, portsOffset] at h ⊢
  omega

end UdtcpInfos

/-! ### What a creation shows -/

/-- The ports reported by `getsockname`, in host order. -/
def reportedPorts (us : List Addressing) : List UInt16 :=
  us.filterMap fun
    | .reported addr => some (hostOrder addr.sinPort)
    | _ => none

/-- The names found for addresses. -/
def namedTexts (us : List Addressing) : List (List UInt8) :=
  us.filterMap fun
    | .named text => some text
    | _ => none

/-- The names reported with hosts. -/
def hostTexts (us : List Addressing) : List (List UInt8) :=
  us.filterMap fun
    | .resolved host => some host.name
    | _ => none

/-- No other host was found, and every address bound is that of the host in the other order. -/
def Turned (host : Hostent) (us : List Addressing) : Prop :=
  ∀ u ∈ us, match u with
    | .resolved h => h = host
    | .bound addr => addr.sAddr = htonl host.addr
    | _ => True

/-- Addresses in both parts are turned around. -/
theorem Turned.append {host : Hostent} {us vs : List Addressing} (hu : Turned host us)
    (hv : Turned host vs) : Turned host (us ++ vs) :=
  List.forall_mem_append.mpr ⟨hu, hv⟩

/-- The sockets of the record are bound, and its addresses are those they report. -/
structure Bound (host : Hostent) (r : UdtcpInfos) (us : List Addressing) : Prop where
  turned : Turned host us
  resolved : .resolved host ∈ us
  bound : ∃ addr, .bound addr ∈ us
  reported : reportedPorts us = [hostOrder r.tcpAddr.sinPort, hostOrder r.udpServerAddr.sinPort,
    hostOrder r.udpClientAddr.sinPort]

/-- What a creation that found `host` comes to, when `texts` are the names that go over the
`hostname` of the record. -/
structure Made (texts : List Addressing → List (List UInt8)) (host : Hostent) (n : Int)
    (r : UdtcpInfos) (us : List Addressing) : Prop where
  turned : Turned host us
  done : n = 0 → .resolved host ∈ us ∧ (∃ addr, .bound addr ∈ us) ∧
    (r.ports = reportedPorts us ↔ ∀ text ∈ texts us, UdtcpInfos.SparesPorts text (reportedPorts us))

section

variable {τ α : Type} {t : Thread τ} {us : List Addressing}
  {Q : α → Thread τ → List Addressing → Prop}

/-- What is seen of one socket that is bound and asked for its address. -/
def bindingsOf (addr : SockaddrIn) (name : Option SockaddrIn) : List Addressing :=
  .bound addr :: (name.map .reported).toList

/-- Rule for binding a socket: what it shows is the address bound and the one read back. -/
theorem must_written_bindSocket {fd : Fd} {addr : SockaddrIn} {f : Option SockaddrIn → Proc τ α}
    (h : ∀ name t', t'.self = t.self →
      Must (written addressingOf) (f name) t' (us ++ bindingsOf addr name) Q) :
    Must (written addressingOf) (bindSocket fd addr >>= f) t us Q := by
  refine must_bind ?_
  unfold bindSocket
  refine must_written_syscall fun r ↦ ?_
  cases r with
  | error e => exact must_pure (h none _ rfl)
  | ok u =>
    refine must_written_syscall fun r ↦ ?_
    rw [List.append_assoc]
    cases r with
    | error e => exact must_pure (h none _ rfl)
    | ok name => exact must_pure (h (some name) _ rfl)

/-- A text copied into a record shows nothing. -/
theorem must_written_copyText {t : Thread UdtcpInfos} {offset : Nat} {text : List UInt8}
    {f : Unit → Proc UdtcpInfos α} {Q : α → Thread UdtcpInfos → List Addressing → Prop}
    (h : Must (written addressingOf) (f ()) { t with self := t.self.patch offset text } us Q) :
    Must (written addressingOf) (copyText offset text >>= f) t us Q :=
  must_bind (must_ite (fun _ ↦ must_update h) fun _ ↦ must_crash)

/-- Setting the texts of a record keeps its ports exactly if the name found spares them. -/
theorem must_written_udtcpSetStringInfos {t : Thread UdtcpInfos} {addr : UdtcpInfos → SockaddrIn} :
    Must (written addressingOf) (udtcpSetStringInfos addr) t us fun _ t' us' ↦
      ∃ name : Option (List UInt8), us' = us ++ (name.map .named).toList ∧
        (t'.self.ports = t.self.ports ↔
          ∀ text, name = some text → UdtcpInfos.SparesPorts text t.self.ports) := by
  unfold udtcpSetStringInfos
  refine must_self_bind (must_written_request fun name ↦ ?_)
  cases name with
  | none =>
    refine must_self_bind (must_written_copyText ?_)
    refine must_ite (fun _ ↦ must_update ⟨none, rfl, ?_⟩) fun _ ↦ must_crash
    refine iff_of_true ?_ fun text htext ↦ by cases htext
    exact (UdtcpInfos.ports_patch_inetNtoa _ (by decide) _).trans
      (UdtcpInfos.ports_patch_inetNtoa _ (Nat.le_refl _) _)
  | some text =>
    refine must_written_copyText (must_self_bind ?_)
    refine must_ite (fun _ ↦ must_update ⟨some text, rfl, ?_⟩) fun _ ↦ must_crash
    rw [UdtcpInfos.ports_patch_inetNtoa _ (Nat.le_refl _), UdtcpInfos.ports_patch_hostname_eq_iff]
    exact ⟨fun h _ htext ↦ Option.some.inj htext ▸ h, fun h ↦ h text rfl⟩

end

/-! ### Deletions -/

/-- The calls of the deletion functions. -/
def Call.deletes : Call → Bool
  | .sys (.shutdown _) => true
  | .sys (.close _) => true
  | .loadSend _ => true
  | .freeBuffer _ => true
  | .mutexDestroy _ => true
  | .callback (.disconnect ..) => true
  | .freeServer => true
  | .freeClient => true
  | _ => false

/-- One of the calls of the deletion functions. -/
def Deletes (e : Event posix) : Prop := e.call.deletes = true

/-- Deleting shows no address. -/
theorem Deletes.unviewed {e : Event posix} (h : Deletes e) : Unviewed addressingOf e := by
  match e, h with
  | ⟨.sys (.shutdown _), _⟩, _ => rfl
  | ⟨.sys (.close _), _⟩, _ => rfl
  | ⟨.loadSend _, _⟩, _ => rfl
  | ⟨.freeBuffer _, _⟩, _ => rfl
  | ⟨.mutexDestroy _, _⟩, _ => rfl
  | ⟨.callback (.disconnect ..), _⟩, _ => rfl
  | ⟨.freeServer, _⟩, _ => rfl
  | ⟨.freeClient, _⟩, _ => rfl

section

variable {τ : Type}

private theorem deletes_request {c : Call} (h : c.deletes = true) :
    Emits Deletes (request c : Proc τ c.Reply) := emits_perform fun _ ↦ h

private theorem deletes_closeIfOpen (fd : Fd) : Emits Deletes (closeIfOpen fd : Proc τ Unit) :=
  .ite ((emits_syscall fun _ ↦ rfl).bind fun _ ↦ emits_pure _) (emits_pure _)

private theorem deletes_shutdownIfOpen (fd : Fd) :
    Emits Deletes (shutdownIfOpen fd : Proc τ Unit) :=
  .ite ((emits_syscall fun _ ↦ rfl).bind fun _ ↦ emits_pure _) (emits_pure _)

/-- Closing a list of sockets is part of deleting. -/
theorem deletes_closeAll (fds : List Fd) : Emits Deletes (closeAll fds : Proc τ Unit) := by
  induction fds with
  | nil => exact emits_pure _
  | cons fd fds ih => exact (emits_syscall fun _ ↦ rfl).bind fun _ ↦ ih

private theorem deletes_freeIf {n : Nat} (b : Option Block) {p : Proc τ Unit}
    (hp : Emits Deletes p) :
    Emits Deletes (do
      if 0 < n then
        freeBlock b
      else
        pure ()
      p : Proc τ Unit) := by
  refine .ite (.bind ?_ fun _ ↦ hp) hp
  cases b with
  | none => exact emits_pure _
  | some b => exact emits_issue fun _ ↦ rfl

/-- Deleting a server shows no address. -/
theorem deletes_udtcpDeleteServer {m : Nat} :
    Emits Deletes (udtcpDeleteServer : ServerProc m Unit) := by
  have hsends (s : UdtcpServer m) (is : List Nat) : Emits Deletes (Server.releaseSends s is) := by
    induction is with
    | nil => exact emits_pure _
    | cons i is ih =>
      exact (deletes_request rfl).bind fun send ↦
        deletes_freeIf _ ((emits_issue fun _ ↦ rfl).bind fun _ ↦ ih)
  have hclients (s : UdtcpServer m) (is : List Nat) :
      Emits Deletes (Server.releaseClients s is) := by
    induction is with
    | nil => exact emits_pure _
    | cons i is ih =>
      refine (deletes_shutdownIfOpen _).bind fun _ ↦ (deletes_closeIfOpen _).bind fun _ ↦ .ite ?_ ?_
      · exact (emits_issue fun _ ↦ rfl).bind fun _ ↦ ih
      · exact ih
  unfold udtcpDeleteServer
  refine emits_self.bind fun s ↦ (deletes_closeIfOpen _).bind fun _ ↦
    (deletes_closeIfOpen _).bind fun _ ↦ (deletes_closeIfOpen _).bind fun _ ↦ ?_
  exact (hsends _ _).bind fun _ ↦ (hclients _ _).bind fun _ ↦
    deletes_freeIf _ (emits_issue fun _ ↦ rfl)

/-- Deleting a client shows no address. -/
theorem deletes_udtcpDeleteClient : Emits Deletes udtcpDeleteClient := by
  unfold udtcpDeleteClient
  refine emits_self.bind fun c ↦ (deletes_shutdownIfOpen _).bind fun _ ↦
    (deletes_closeIfOpen _).bind fun _ ↦ (deletes_closeIfOpen _).bind fun _ ↦
    (deletes_closeIfOpen _).bind fun _ ↦ ?_
  have hend : Emits Deletes (do
      if 0 < c.buffer.bufferSize then
        freeBlock c.buffer.bufferData
      else
        pure ()
      let send ← request (.loadSend c.sendAddr)
      if 0 < send.bufferSize then
        freeBlock send.buffer
      else
        pure ()
      issue (.mutexDestroy c.sendAddr)
      issue .freeClient : ClientProc Unit) :=
    deletes_freeIf _ ((deletes_request rfl).bind fun send ↦ deletes_freeIf _
      ((emits_issue fun _ ↦ rfl).bind fun _ ↦ emits_issue fun _ ↦ rfl))
  exact .ite ((emits_issue fun _ ↦ rfl).bind fun _ ↦ hend) hend

end

end Udtcp
