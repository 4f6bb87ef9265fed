import Udtcp.Base.Infos
import Udtcp.Bytes.Memory
import Udtcp.Interaction.Environment

/-!
# What the library asks of its surroundings

System calls, name lookups, allocation, mutexes, user callbacks and the accesses to memory
other threads share, as one signature. A system call fails with an `errno` value and then
sets the caller's `errno`; a successful one leaves it unchanged. Log messages are left out:
without `DEBUG` and the `UDTCP_LOG_*` defines the macros of `udtcp/include/udtcp.h:104–131`
expand to nothing.
-/

namespace Udtcp

open Interaction

/-- A block handed out by `udtcp_new_buffer`: its address, the number of bytes asked for,
and the memory behind the address. Writes are not cut at `cap`; that they stay below it
is a property to be proved. -/
structure Block where
  ptr : Nat
  cap : Nat
  mem : Memory

/-- A new block, cleared. -/
def Block.fresh (ptr size : Nat) : {b : Block // b.cap = size} := ⟨⟨ptr, size, fun _ ↦ 0⟩, rfl⟩

/-- `struct udtcp_send_s`, `udtcp/include/udtcp.h:135–142`. The two offset pointers point
into `buffer`, or nowhere before its first allocation. -/
structure UdtcpSend where
  mutex : Vector UInt8 40
  bufferSize : Nat
  buffer : Option Block
  sizeOffset : Option Nat
  payloadOffset : Option Nat

/-- The first byte of a mutex. -/
theorem UdtcpSend.mutex_pos : 0 < 40 := by decide

/-- A send structure cleared by `memset`. -/
def UdtcpSend.zero : UdtcpSend := ⟨.replicate 40 0, 0, none, none, none⟩

/-- The parts of `struct hostent` the library reads: `h_name` and `h_addr_list[0]`. -/
structure Hostent where
  name : List UInt8
  addr : UInt32
  deriving DecidableEq, Repr

/-- The kinds of sockets the library opens. -/
inductive SocketKind where
  | stream
  | dgram
  deriving DecidableEq, Repr

/-- The socket options the library sets. -/
inductive SocketOption where
  | reuseAddr
  | reusePort
  deriving DecidableEq, Repr

/-- Where a reception writes: a `uint32_t` on the stack, a peer record, or the shared
receive buffer (its address and size, none and zero when null) from an offset on. -/
inductive Target where
  | word
  | record
  | buffer (ptr : Option Nat) (cap : Nat) (offset : Nat)
  deriving DecidableEq, Repr

/-- A send may take all it is given. -/
theorem length_le_self (data : List UInt8) : data.length ≤ data.length := Nat.le_refl _

/-- What a reception reports that gets as many bytes as it asked for. -/
def allOf (bs : List UInt8) : {l : List UInt8 // l.length ≤ bs.length} := ⟨bs, length_le_self bs⟩

/-- A descriptor handed out by the kernel is not negative. -/
abbrev Descriptor := {fd : Fd // 0 ≤ fd}

/-- Calls that report failure through `errno`. -/
inductive SysCall where
  | socket (kind : SocketKind)
  | setsockopt (fd : Fd) (option : SocketOption)
  | bind (fd : Fd) (addr : SockaddrIn)
  | getsockname (fd : Fd)
  | listen (fd : Fd) (backlog : Nat)
  | connect (fd : Fd) (addr : SockaddrIn)
  | accept (fd : Fd)
  | getfl (fd : Fd)
  | setfl (fd : Fd) (flags : Nat)
  | poll (fds : List PollFd) (timeout : Int)
  | send (fd : Fd) (data : List UInt8)
  | sendto (fd : Fd) (data : List UInt8) (addr : SockaddrIn)
  | recv (fd : Fd) (target : Target) (len : Nat)
  | recvfrom (fd : Fd) (target : Target) (len : Nat) (peek : Bool)
  | shutdown (fd : Fd)
  | close (fd : Fd)
  | newBuffer (size : Nat)
  | newServer
  | newClient
  deriving DecidableEq, Repr

/-- What a call that did not fail reports. A poll reports the `revents` of every entry;
receptions and sends report at most the length they were given. -/
def SysCall.Result : SysCall → Type
  | .socket _ => Descriptor
  | .setsockopt _ _ => Unit
  | .bind _ _ => Unit
  | .getsockname _ => SockaddrIn
  | .listen _ _ => Unit
  | .connect _ _ => Unit
  | .accept _ => Descriptor × SockaddrIn
  | .getfl _ => Nat
  | .setfl _ _ => Unit
  | .poll fds _ => Vector UInt16 fds.length
  | .send _ data => {n : Nat // n ≤ data.length}
  | .sendto _ data _ => {n : Nat // n ≤ data.length}
  | .recv _ _ len => {bs : List UInt8 // bs.length ≤ len}
  | .recvfrom _ _ len _ => {bs : List UInt8 // bs.length ≤ len} × SockaddrIn
  | .shutdown _ => Unit
  | .close _ => Unit
  | .newBuffer size => {b : Block // b.cap = size}
  | .newServer => UInt64
  | .newClient => UInt64

/-- User callbacks, with the table slot the record pointer designates, the record behind
it and the data handed over. -/
inductive Callback where
  | connect (slot : Nat) (infos : UdtcpInfos)
  | disconnect (slot : Nat) (infos : UdtcpInfos)
  | receiveTcp (slot : Nat) (infos : UdtcpInfos) (data : List UInt8)
  | receiveUdp (slot : Nat) (infos : UdtcpInfos) (data : List UInt8)
  deriving DecidableEq, Repr

/-- Everything a routine of the library can ask for. Mutexes and send structures are named
by their address. `pollLoop` reads the flag other threads clear; after `fault`, an access
through a null pointer or outside every object, nothing follows. -/
inductive Call where
  | sys (c : SysCall)
  | gethostbyname (name : List UInt8)
  | gethostbyaddr (key : List UInt8)
  | freeBuffer (ptr : Nat)
  | freeServer
  | freeClient
  | mutexInit (addr : UInt64)
  | mutexDestroy (addr : UInt64)
  | mutexLock (addr : UInt64)
  | mutexUnlock (addr : UInt64)
  | pollLoop
  | loadSend (addr : UInt64)
  | storeSend (addr : UInt64) (value : UdtcpSend)
  | callback (c : Callback)
  | fault

/-- Replies. The mutex calls report whether they succeeded. -/
@[reducible] def Call.Reply : Call → Type
  | .sys c => Except Errno c.Result
  | .gethostbyname _ => Option Hostent
  | .gethostbyaddr _ => Option (List UInt8)
  | .freeBuffer _ => Unit
  | .freeServer => Unit
  | .freeClient => Unit
  | .mutexInit _ => Bool
  | .mutexDestroy _ => Unit
  | .mutexLock _ => Bool
  | .mutexUnlock _ => Unit
  | .pollLoop => Bool
  | .loadSend _ => UdtcpSend
  | .storeSend _ _ => Unit
  | .callback _ => Unit
  | .fault => Empty

/-- A name found for an address fits into `hostname`, a final NUL byte included. -/
abbrev NameFits (name : List UInt8) : Prop := name.length ≤ 255

/-- An answer that names no host, or one whose name fits. -/
def AnswerFits : (c : Call) → c.Reply → Prop
  | .gethostbyaddr _, some name => NameFits name
  | _, _ => True

/-- The signature of the library's surroundings. -/
@[reducible] def posix : Signature := ⟨Call, Call.Reply⟩

/-- A thread working on an object of the library: its `errno` and the object. -/
structure Thread (τ : Type) where
  errno : Errno
  self : τ

/-- `errno` after a system call was answered. -/
def Thread.note {τ α : Type} (t : Thread τ) : Except Errno α → Thread τ
  | .error e => { t with errno := e }
  | .ok _ => t

/-- Routines of the library that work on an object of type `τ`. -/
abbrev Proc (τ α : Type) := Routine posix (Thread τ) α

section

variable {τ σ α : Type}

/-- Make a system call, keeping `errno` up to date. -/
def syscall (c : SysCall) : Proc τ (Except Errno c.Result) := fun t ↦
  .call (.sys c) fun r ↦ .ret (r, t.note r)

/-- Make any other call. -/
def request (c : Call) : Proc τ c.Reply := Routine.perform (S := posix) c

/-- Make a call whose reply says nothing. -/
def issue (c : Call) : Proc τ Unit := fun t ↦ .call c fun _ ↦ .ret ((), t)

/-- Read the object the routine works on. -/
def self : Proc τ τ := fun t ↦ .ret (t.self, t)

/-- Change the object the routine works on. -/
def update (f : τ → τ) : Proc τ Unit := fun t ↦ .ret ((), { t with self := f t.self })

/-- Read `errno`. -/
def errno : Proc τ Errno := fun t ↦ .ret (t.errno, t)

/-- Set `errno`. -/
def setErrno (e : Errno) : Proc τ Unit := fun t ↦ .ret ((), { t with errno := e })

/-- Nothing follows an access that no object allows. -/
def crash : Proc τ α := fun _ ↦ .call .fault fun e ↦ e.elim

/-- Run a routine on a part of the object. -/
def onPart (view : τ → σ) (put : σ → τ → τ) (m : Proc σ α) : Proc τ α :=
  Routine.zoom (fun t ↦ ⟨t.errno, view t.self⟩) (fun u t ↦ ⟨u.errno, put u.self t.self⟩) m

open Routine

variable {t t' : Thread τ} {tr : Trace posix}

/-- A call that succeeds leaves `errno` alone. -/
@[simp] theorem Thread.note_ok (t : Thread τ) (a : α) : t.note (.ok a : Except Errno α) = t := rfl

@[simp] private theorem Thread.note_error (t : Thread τ) (e : Errno) :
    t.note (.error e : Except Errno α) = { t with errno := e } := rfl

/-- A system call leaves the object alone. -/
@[simp] theorem Thread.note_self (t : Thread τ) (r : Except Errno α) :
    (t.note r).self = t.self := by
  cases r <;> rfl

/-- A run of a system call. -/
@[simp] theorem exec_syscall {c : SysCall} {r : Except Errno c.Result} :
    Exec (syscall c) t tr r t' ↔ tr = [⟨.sys c, r⟩] ∧ t' = t.note r := by
  simp only [Exec, syscall, Program.path_call, Program.path_ret]
  constructor
  · rintro ⟨r', rest, rfl, rfl, h⟩
    obtain ⟨rfl, rfl⟩ := Prod.mk.inj h
    exact ⟨rfl, rfl⟩
  · rintro ⟨rfl, rfl⟩
    exact ⟨r, [], rfl, rfl, rfl⟩

/-- A run of a call with a reply. -/
@[simp] theorem exec_request {c : Call} {r : c.Reply} :
    Exec (request c : Proc τ _) t tr r t' ↔ tr = [⟨c, r⟩] ∧ t' = t :=
  exec_perform

/-- A run of a call without a reply. -/
@[simp] theorem exec_issue {c : Call} {u : Unit} :
    Exec (issue c) t tr u t' ↔ ∃ r, tr = [⟨c, r⟩] ∧ t' = t := by
  simp only [Exec, issue, Program.path_call, Program.path_ret]
  constructor
  · rintro ⟨r, rest, rfl, rfl, h⟩
    exact ⟨r, rfl, (Prod.mk.inj h).2⟩
  · rintro ⟨r, rfl, rfl⟩
    exact ⟨r, [], rfl, rfl, rfl⟩

/-- Reading the object changes nothing. -/
@[simp] theorem exec_self {a : τ} : Exec self t tr a t' ↔ tr = [] ∧ a = t.self ∧ t' = t := by
  simp [Exec, self]

@[simp] private theorem exec_errno {a : Errno} :
    Exec errno t tr a t' ↔ tr = [] ∧ a = t.errno ∧ t' = t := by
  simp [Exec, errno]

/-- A run of an update. -/
@[simp] theorem exec_update {f : τ → τ} {u : Unit} :
    Exec (update f) t tr u t' ↔ tr = [] ∧ t' = { t with self := f t.self } := by
  simp [Exec, update]

/-- A system call and what follows it. -/
@[simp] theorem exec_syscall_bind {c : SysCall} {f : Except Errno c.Result → Proc τ α} {a : α} :
    Exec (syscall c >>= f) t tr a t' ↔
      ∃ r rest, tr = ⟨.sys c, r⟩ :: rest ∧ Exec (f r) (t.note r) rest a t' := Iff.rfl

/-- A call with a reply and what follows it. -/
@[simp] theorem exec_request_bind {c : Call} {f : c.Reply → Proc τ α} {a : α} :
    Exec (request c >>= f) t tr a t' ↔
      ∃ r rest, tr = ⟨c, r⟩ :: rest ∧ Exec (f r) t rest a t' := Iff.rfl

/-- A call without a reply and what follows it. -/
@[simp] theorem exec_issue_bind {c : Call} {f : Unit → Proc τ α} {a : α} :
    Exec (issue c >>= f) t tr a t' ↔
      ∃ r rest, tr = ⟨c, r⟩ :: rest ∧ Exec (f ()) t rest a t' := Iff.rfl

/-- What follows a look at the object. -/
@[simp] theorem exec_self_bind {f : τ → Proc τ α} {a : α} :
    Exec (self >>= f) t tr a t' ↔ Exec (f t.self) t tr a t' := Iff.rfl

/-- What follows a look at `errno`. -/
@[simp] theorem exec_errno_bind {f : Errno → Proc τ α} {a : α} :
    Exec (errno >>= f) t tr a t' ↔ Exec (f t.errno) t tr a t' := Iff.rfl

/-- What follows a change of `errno`. -/
@[simp] theorem exec_setErrno_bind {e : Errno} {f : Unit → Proc τ α} {a : α} :
    Exec (setErrno e >>= f) t tr a t' ↔ Exec (f ()) { t with errno := e } tr a t' := Iff.rfl

/-- Nothing comes behind a crash. -/
@[simp] theorem exec_crash {a : α} : ¬ Exec (crash : Proc τ α) t tr a t' := by
  rintro ⟨r, -⟩
  exact r.elim

/-- What follows an update. -/
@[simp] theorem exec_update_bind {g : τ → τ} {f : Unit → Proc τ α} {a : α} :
    Exec (update g >>= f) t tr a t' ↔ Exec (f ()) { t with self := g t.self } tr a t' := Iff.rfl

/-- A run on a part of the object. -/
theorem exec_onPart {view : τ → σ} {put : σ → τ → τ} {m : Proc σ α} {a : α} :
    Exec (onPart view put m) t tr a t' ↔
      ∃ u, Exec m ⟨t.errno, view t.self⟩ tr a u ∧ t' = ⟨u.errno, put u.self t.self⟩ :=
  exec_zoom

/-! ### Runs that can happen -/

section

variable {Q : Trace posix → α → Thread τ → Prop}

/-- A system call can be answered in any way. -/
theorem may_syscall_bind {c : SysCall} {f : Except Errno c.Result → Proc τ α}
    (r : Except Errno c.Result)
    (h : May (f r) (t.note r) fun tr a t' ↦ Q (⟨.sys c, r⟩ :: tr) a t') :
    May (syscall c >>= f) t Q := by
  obtain ⟨tr, a, t', hf, hq⟩ := h
  exact ⟨_, a, t', exec_syscall_bind.mpr ⟨r, tr, rfl, hf⟩, hq⟩

/-- A call with a reply can be answered in any way. -/
theorem may_request_bind {c : Call} {f : c.Reply → Proc τ α} (r : c.Reply)
    (h : May (f r) t fun tr a t' ↦ Q (⟨c, r⟩ :: tr) a t') : May (request c >>= f) t Q := by
  obtain ⟨tr, a, t', hf, hq⟩ := h
  exact ⟨_, a, t', exec_request_bind.mpr ⟨r, tr, rfl, hf⟩, hq⟩

/-- A call without a reply can be made. -/
theorem may_issue_bind {c : Call} {f : Unit → Proc τ α} (r : c.Reply)
    (h : May (f ()) t fun tr a t' ↦ Q (⟨c, r⟩ :: tr) a t') : May (issue c >>= f) t Q := by
  obtain ⟨tr, a, t', hf, hq⟩ := h
  exact ⟨_, a, t', exec_issue_bind.mpr ⟨r, tr, rfl, hf⟩, hq⟩

/-- A call without a reply can be made at the end. -/
theorem may_issue {c : Call} {Q : Trace posix → Unit → Thread τ → Prop} (r : c.Reply)
    (h : Q [⟨c, r⟩] () t) : May (issue c) t Q :=
  ⟨_, (), t, exec_issue.mpr ⟨r, rfl, rfl⟩, h⟩

/-- The object can be looked at. -/
theorem may_self_bind {f : τ → Proc τ α} (h : May (f t.self) t Q) : May (self >>= f) t Q := h

/-- `errno` can be looked at. -/
theorem may_errno_bind {f : Errno → Proc τ α} (h : May (f t.errno) t Q) :
    May (errno >>= f) t Q := h

/-- The object can be changed. -/
theorem may_update_bind {g : τ → τ} {f : Unit → Proc τ α}
    (h : May (f ()) { t with self := g t.self } Q) : May (update g >>= f) t Q := h

/-- The object can be changed at the end. -/
theorem may_update {g : τ → τ} {Q : Trace posix → Unit → Thread τ → Prop}
    (h : Q [] () { t with self := g t.self }) : May (update g) t Q :=
  ⟨[], (), _, exec_update.mpr ⟨rfl, rfl⟩, h⟩

/-- A routine can be run on a part of the object. -/
theorem may_onPart {view : τ → σ} {put : σ → τ → τ} {m : Proc σ α}
    (h : May m ⟨t.errno, view t.self⟩ fun tr a u ↦ Q tr a ⟨u.errno, put u.self t.self⟩) :
    May (onPart view put m) t Q :=
  may_zoom h

end

/-! ### Runs in an environment -/

section

variable {K : Type} {ker : Kernel posix K} {k : K} {Q : α → Thread τ → K → Prop}

private theorem must_syscall {c : SysCall} {Q : Except Errno c.Result → Thread τ → K → Prop}
    (h : ∀ r k', ker k (.sys c) r k' → Q r (t.note r) k') : Must ker (syscall c) t k Q := by
  intro tr r t' k' hr ha
  obtain ⟨rfl, rfl⟩ := exec_syscall.mp hr
  obtain ⟨_, hk, rfl⟩ := ha
  exact h r _ hk

/-- Rule for a system call. -/
theorem must_syscall_bind {c : SysCall} {f : Except Errno c.Result → Proc τ α}
    (h : ∀ r k', ker k (.sys c) r k' → Must ker (f r) (t.note r) k' Q) :
    Must ker (syscall c >>= f) t k Q :=
  must_bind (must_syscall h)

/-- Rule for a call with a reply. -/
theorem must_request_bind {c : Call} {f : c.Reply → Proc τ α}
    (h : ∀ r k', ker k c r k' → Must ker (f r) t k' Q) : Must ker (request c >>= f) t k Q :=
  must_bind (must_perform h)

/-- Rule for a call without a reply at the end. -/
theorem must_issue {c : Call} {Q : Unit → Thread τ → K → Prop}
    (h : ∀ r k', ker k c r k' → Q () t k') : Must ker (issue c) t k Q := by
  intro tr u t' k' hr ha
  obtain ⟨r, rfl, rfl⟩ := exec_issue.mp hr
  obtain ⟨_, hk, rfl⟩ := ha
  exact h r _ hk

/-- Rule for a call without a reply. -/
theorem must_issue_bind {c : Call} {f : Unit → Proc τ α}
    (h : ∀ r k', ker k c r k' → Must ker (f ()) t k' Q) : Must ker (issue c >>= f) t k Q :=
  must_bind (must_issue h)

/-- Rule for reading the object. -/
theorem must_self_bind {f : τ → Proc τ α} (h : Must ker (f t.self) t k Q) :
    Must ker (self >>= f) t k Q := h

/-- Rule for reading `errno`. -/
theorem must_errno_bind {f : Errno → Proc τ α} (h : Must ker (f t.errno) t k Q) :
    Must ker (errno >>= f) t k Q := h

/-- Rule for setting `errno`. -/
theorem must_setErrno_bind {e : Errno} {f : Unit → Proc τ α}
    (h : Must ker (f ()) { t with errno := e } k Q) : Must ker (setErrno e >>= f) t k Q := h

/-- Rule for an update at the end. -/
theorem must_update {g : τ → τ} {Q : Unit → Thread τ → K → Prop}
    (h : Q () { t with self := g t.self } k) : Must ker (update g) t k Q := by
  intro tr u t' k' hr ha
  obtain ⟨rfl, rfl⟩ := exec_update.mp hr
  obtain rfl := ha
  exact h

/-- Rule for an update. -/
theorem must_update_bind {g : τ → τ} {f : Unit → Proc τ α}
    (h : Must ker (f ()) { t with self := g t.self } k Q) : Must ker (update g >>= f) t k Q := h

/-- Nothing need be known behind a crash. -/
theorem must_crash : Must ker (crash : Proc τ α) t k Q := fun _ _ _ _ hr ↦ (exec_crash hr).elim

/-- Rule for a routine on a part of the object. -/
theorem must_onPart {view : τ → σ} {put : σ → τ → τ} {m : Proc σ α}
    (h : Must ker m ⟨t.errno, view t.self⟩ k fun a u k' ↦ Q a ⟨u.errno, put u.self t.self⟩ k') :
    Must ker (onPart view put m) t k Q :=
  must_zoom h

variable {I : Thread τ → K → Prop}

/-- A system call maintains what its answers do. -/
theorem maintains_syscall {c : SysCall}
    (h : ∀ t k r k', I t k → ker k (.sys c) r k' → I (t.note r) k') :
    Maintains ker I (syscall c : Proc τ _) :=
  fun t k hI ↦ must_syscall fun r k' hk ↦ h t k r k' hI hk

/-- A call without a reply maintains what its answer does. -/
theorem maintains_issue {c : Call} (h : ∀ t k r k', I t k → ker k c r k' → I t k') :
    Maintains ker I (issue c : Proc τ Unit) :=
  fun t k hI ↦ must_issue fun r k' hk ↦ h t k r k' hI hk

/-- Reading the object maintains anything. -/
theorem maintains_self : Maintains ker I (self : Proc τ τ) :=
  fun _ _ hI ↦ must_self_bind (f := pure) (must_pure hI)

/-- Reading `errno` maintains anything. -/
theorem maintains_errno : Maintains ker I (errno : Proc τ Errno) :=
  fun _ _ hI ↦ must_errno_bind (f := pure) (must_pure hI)

/-- An update maintains what it keeps. -/
theorem maintains_update {g : τ → τ} (h : ∀ t k, I t k → I { t with self := g t.self } k) :
    Maintains ker I (update g) :=
  fun t k hI ↦ must_update (h t k hI)

/-- A crash maintains anything. -/
theorem maintains_crash : Maintains ker I (crash : Proc τ α) := fun _ _ _ ↦ must_crash

end

/-! ### Which calls a routine makes -/

variable {P : Event posix → Prop}

/-- A system call emits itself. -/
theorem emits_syscall {c : SysCall} (h : ∀ r, P ⟨.sys c, r⟩) :
    Emits P (syscall c : Proc τ _) := by
  intro t tr r t' hr
  obtain ⟨rfl, -⟩ := exec_syscall.mp hr
  simpa using h r

/-- A call without a reply emits itself. -/
theorem emits_issue {c : Call} (h : ∀ r, P ⟨c, r⟩) : Emits P (issue c : Proc τ Unit) := by
  intro t tr u t' hr
  obtain ⟨r, rfl, -⟩ := exec_issue.mp hr
  simpa using h r

/-- Reading the object emits nothing. -/
theorem emits_self : Emits P (self : Proc τ τ) := by
  intro t tr a t' h
  obtain ⟨rfl, -, -⟩ := exec_self.mp h
  simp

/-- Reading `errno` emits nothing. -/
theorem emits_errno : Emits P (errno : Proc τ Errno) := by
  intro t tr a t' h
  obtain ⟨rfl, -, -⟩ := exec_errno.mp h
  simp

/-- Setting `errno` emits nothing. -/
theorem emits_setErrno (e : Errno) : Emits P (setErrno e : Proc τ Unit) := by
  intro t tr u t' h
  obtain ⟨rfl, -⟩ := exec_pure.mp (exec_setErrno_bind (f := pure).mp h)
  simp

/-- An update emits nothing. -/
theorem emits_update (f : τ → τ) : Emits P (update f) := by
  intro t tr u t' h
  obtain ⟨rfl, -⟩ := exec_update.mp h
  simp

end

end Udtcp
