import Udtcp.Client.Stable
import Udtcp.Posix.Observe
import Udtcp.Receive.Calls

/-!
# Which calls a client makes

The calls of connection attempts, passes and deletion, as far as properties of single calls go. In a
connection attempt only the exchange of records sends, and only its end calls the user back; a pass
calls the user back with data, and once more where it disconnects.
-/

namespace Udtcp

open Interaction Routine

/-- The calls that read from or write to a stream. -/
def SysCall.exchanges : SysCall → Bool
  | .send _ _ => true
  | .recv _ _ _ => true
  | _ => false

/-- The calls that make a socket ready for a connection, and those that take it back. -/
def SysCall.prepares : SysCall → Bool
  | .socket _ => true
  | .setsockopt _ _ => true
  | .bind _ _ => true
  | .getfl _ => true
  | .setfl _ _ => true
  | .poll _ _ => true
  | .shutdown _ => true
  | .close _ => true
  | _ => false

private theorem SysCall.exchanges_of_prepares {c : SysCall} (h : c.prepares = true) :
    c.exchanges = false := by
  cases c
  case send => cases h
  case recv => cases h
  all_goals rfl

/-- What a property must hold of to hold of all calls of the exchange of records but its `send`. -/
structure RecordCalls (P : Event posix → Prop) : Prop where
  poll : ∀ fds timeout r, P ⟨.sys (.poll fds timeout), r⟩
  record : ∀ fd len r, P ⟨.sys (.recv fd .record len), r⟩
  load : ∀ addr r, P ⟨.loadSend addr, r⟩
  store : ∀ addr value r, P ⟨.storeSend addr value, r⟩

/-- What a property must hold of to hold of all calls of a connection attempt but its `send` and its
callback. -/
structure ConnectCalls (P : Event posix → Prop) : Prop where
  sys : ∀ c r, c.exchanges = false → P ⟨.sys c, r⟩
  record : ∀ fd len r, P ⟨.sys (.recv fd .record len), r⟩
  host : ∀ name r, P ⟨.gethostbyname name, r⟩
  name : ∀ key r, P ⟨.gethostbyaddr key, r⟩
  load : ∀ addr r, P ⟨.loadSend addr, r⟩
  store : ∀ addr value r, P ⟨.storeSend addr value, r⟩

private theorem ConnectCalls.prepare {P : Event posix → Prop} (hP : ConnectCalls P) (c : SysCall)
    (r : Except Errno c.Result) (hc : c.prepares = true) : P ⟨.sys c, r⟩ :=
  hP.sys c r (SysCall.exchanges_of_prepares hc)

private theorem ConnectCalls.recordCalls {P : Event posix → Prop} (hP : ConnectCalls P) :
    RecordCalls P :=
  ⟨fun _ _ r ↦ hP.sys _ r rfl, hP.record, hP.load, hP.store⟩

namespace Client

section

variable {P : Event posix → Prop} (hsys : ∀ c r, c.prepares = true → P ⟨.sys c, r⟩)

include hsys

/-- Closing the TCP socket makes calls on it alone. -/
theorem emits_closeTcpSocket : Emits P closeTcpSocket :=
  emits_self.bind fun _ ↦ (emits_syscall fun r ↦ hsys _ r rfl).bind fun _ ↦
    emits_self.bind fun _ ↦ (emits_syscall fun r ↦ hsys _ r rfl).bind fun _ ↦ emits_pure _

/-- Creating the TCP socket makes these calls. -/
theorem emits_createTcpSocket : Emits P createTcpSocket := by
  have hconfigure : Emits P configureTcpSocket := by
    unfold configureTcpSocket
    refine emits_self.bind fun _ ↦ (emits_syscall fun r ↦ hsys _ r rfl).bind fun r ↦ ?_
    cases r with
    | error e => exact emits_pure _
    | ok u =>
      refine (emits_syscall fun r ↦ hsys _ r rfl).bind fun r ↦ ?_
      cases r with
      | error e => exact emits_pure _
      | ok u =>
        refine (emits_udtcpSocketAddOption (fun r ↦ hsys _ r rfl)
          fun _ r ↦ hsys _ r rfl).bind fun n ↦ .ite (emits_pure _) ?_
        refine emits_self.bind fun _ ↦ (emits_syscall fun r ↦ hsys _ r rfl).bind fun r ↦ ?_
        cases r <;> exact emits_pure _
  unfold createTcpSocket
  refine (emits_syscall fun r ↦ hsys _ r rfl).bind fun r ↦ ?_
  cases r with
  | error e => exact (emits_update _).bind fun _ ↦ emits_pure _
  | ok fd => exact (emits_update _).bind fun _ ↦ hconfigure

/-- Connecting the socket makes these calls. -/
theorem emits_connectSocket (addr : SockaddrIn) (timeout : Int)
    (hconnect : ∀ fd r, P ⟨.sys (.connect fd addr), r⟩) : Emits P (connectSocket addr timeout) := by
  have hclose (o : Option UdtcpConnect) : Emits P (do
      closeTcpSocket
      return o) := (emits_closeTcpSocket hsys).bind fun _ ↦ emits_pure _
  have hclose' (e : Errno) (o : Option UdtcpConnect) : Emits P (do
      closeTcpSocket
      setErrno e
      return o) := (emits_closeTcpSocket hsys).bind fun _ ↦ (emits_setErrno e).bind fun _ ↦
    emits_pure _
  unfold connectSocket
  refine emits_self.bind fun _ ↦ (emits_syscall fun r ↦ hconnect _ r).bind fun r ↦ ?_
  cases r with
  | ok u => exact emits_pure _
  | error e =>
    refine emits_errno.bind fun _ ↦
      .ite ((emits_syscall fun r ↦ hsys _ r rfl).bind fun reply ↦ ?_) (hclose _)
    cases reply with
    | error e => exact hclose _
    | ok revents => exact .ite (hclose' _ _) (.ite (hclose' _ _) (emits_pure _))

end

section

variable {P : Event posix → Prop} (hP : RecordCalls P)

include hP

private theorem emits_writeRecord (bs : List UInt8) : Emits P (writeRecord bs) := by
  unfold writeRecord
  refine (emits_update _).bind fun _ ↦ ?_
  cases bs[UdtcpInfos.sizeof]? with
  | none => exact emits_pure _
  | some b =>
    exact emits_self.bind fun _ ↦ (emits_perform fun r ↦ hP.load _ r).bind fun _ ↦
      emits_issue fun r ↦ hP.store _ _ r

variable {t t' : Thread UdtcpClient} {tr : Trace posix}

/-- The exchange of records ends early, or with the `send` of the client's record, and succeeds if
the kernel takes all of that. -/
theorem exec_initializeConnection {result : UdtcpConnect}
    (h : Exec initializeConnection t tr result t') :
    (result ≠ .success ∧ ∀ e ∈ tr, P e) ∨
    ∃ pre fd data r, tr = pre ++ [⟨.sys (.send fd data), r⟩] ∧ (∀ e ∈ pre, P e) ∧
      (result = .success ↔ ∃ n, r = .ok n ∧ n.val = UdtcpInfos.sizeof) := by
  unfold initializeConnection at h
  have hpoll := exec_self_bind.mp h
  obtain ⟨tr₁, n, t₁, rest, rfl, h₁, hrest⟩ := exec_bind.mp hpoll
  have hseen₁ : ∀ e ∈ tr₁, P e :=
    ((emits_syscall fun r ↦ hP.poll _ _ r).bind fun _ ↦ emits_pure _) _ _ _ _ h₁
  rw [exec_ite] at hrest
  split at hrest
  · obtain ⟨rfl, rfl, -⟩ := exec_pure.mp hrest
    exact .inl ⟨nofun, by simpa using hseen₁⟩
  rw [exec_ite] at hrest
  split at hrest
  · have hlate := exec_setErrno_bind.mp hrest
    obtain ⟨rfl, rfl, -⟩ := exec_pure.mp hlate
    exact .inl ⟨nofun, by simpa using hseen₁⟩
  obtain ⟨r, rest, rfl, hgot⟩ := exec_syscall_bind.mp hrest
  have hrecv := hP.record t.self.clientInfos.tcpSocket (UdtcpInfos.sizeof + 1) r
  cases r with
  | error e =>
    obtain ⟨rfl, rfl, -⟩ := exec_pure.mp hgot
    exact .inl ⟨nofun, List.forall_mem_append.mpr ⟨hseen₁, by simpa using hrecv⟩⟩
  | ok bs =>
    obtain ⟨tr₃, _, t₃, rest, rfl, h₃, hend⟩ := exec_bind.mp hgot
    have hseen₃ := emits_writeRecord hP _ _ _ _ _ h₃
    have hseen : ∀ e ∈ tr₁ ++ _ :: tr₃, P e :=
      List.forall_mem_append.mpr ⟨hseen₁, List.forall_mem_cons.mpr ⟨hrecv, hseen₃⟩⟩
    rw [← List.cons_append, ← List.append_assoc]
    rw [exec_ite] at hend
    split at hend
    · obtain ⟨rfl, rfl, -⟩ := exec_pure.mp hend
      exact .inl ⟨nofun, by rwa [List.append_nil]⟩
    rw [exec_ite] at hend
    split at hend
    · rw [exec_ite] at hend
      split at hend
      · obtain ⟨rfl, rfl, -⟩ := exec_pure.mp hend
        exact .inl ⟨nofun, by rwa [List.append_nil]⟩
      · obtain ⟨rfl, rfl, -⟩ := exec_pure.mp hend
        exact .inl ⟨nofun, by rwa [List.append_nil]⟩
    have hself := exec_self_bind.mp hend
    obtain ⟨r, rest, rfl, hsent⟩ := exec_syscall_bind.mp hself
    cases r with
    | error e =>
      obtain ⟨rfl, rfl, -⟩ := exec_pure.mp hsent
      refine .inr ⟨_, _, _, _, rfl, hseen, iff_of_false nofun ?_⟩
      rintro ⟨n, hn, -⟩
      cases hn
    | ok n =>
      rw [exec_ite] at hsent
      split at hsent
      · next hn =>
        obtain ⟨rfl, rfl, -⟩ := exec_pure.mp hsent
        refine .inr ⟨_, _, _, _, rfl, hseen, iff_of_false nofun ?_⟩
        rintro ⟨n', hn', hsize⟩
        cases hn'
        exact hn hsize
      · next hn =>
        obtain ⟨rfl, rfl, -⟩ := exec_pure.mp hsent
        exact .inr ⟨_, _, _, _, rfl, hseen, iff_of_true rfl ⟨n, rfl, not_not.mp hn⟩⟩

omit hP in
/-- The end of a connection attempt calls the user back, if a callback is there. -/
theorem exec_adoptServer {addr : UInt32} {u : Unit} (hname : ∀ key r, P ⟨.gethostbyaddr key, r⟩)
    (h : Exec (adoptServer addr) t tr u t') :
    ∃ pre r, tr = pre ++
        (if t'.self.connectCallback then [⟨.callback (.connect 1 r), ()⟩] else []) ∧
      ∀ e ∈ pre, P e := by
  unfold adoptServer at h
  obtain ⟨tr₁, _, t₁, rest, rfl, h₁, hrest⟩ := exec_bind.mp (exec_update_bind.mp h)
  obtain ⟨v, hv, rfl⟩ := exec_onPart.mp h₁
  obtain ⟨name, rfl, -⟩ := exec_udtcpSetStringInfos hv
  refine ⟨_, v.self, ?_, List.forall_mem_singleton.mpr (hname _ name)⟩
  have hcall := exec_self_bind.mp hrest
  rw [exec_ite] at hcall
  split at hcall
  · next hcb =>
    obtain ⟨x, rfl, rfl⟩ := exec_issue.mp hcall
    rw [if_pos hcb]
  · next hcb =>
    obtain ⟨rfl, -, rfl⟩ := exec_pure.mp hcall
    rw [if_neg hcb]

end

end Client

/-- The kernel took a record whole. -/
def RecordTaken (tr : Trace posix) : Prop :=
  ∃ e ∈ tr, ∃ w, writeOf e.call e.reply = some w ∧ w.count = UdtcpInfos.sizeof

-- A call that neither calls back nor sends.
private def Mute (e : Event posix) : Prop :=
  callbackOf e.call = none ∧ writeOf e.call e.reply = none

private theorem connectCalls_mute : ConnectCalls Mute := by
  refine ⟨fun c r hc ↦ ⟨rfl, ?_⟩, fun _ _ _ ↦ ⟨rfl, rfl⟩, fun _ _ ↦ ⟨rfl, rfl⟩,
    fun _ _ ↦ ⟨rfl, rfl⟩, fun _ _ ↦ ⟨rfl, rfl⟩, fun _ _ _ ↦ ⟨rfl, rfl⟩⟩
  cases c
  case send fd data => cases hc
  all_goals rfl

/-- A record is taken in one of two parts. -/
@[simp] theorem recordTaken_append {tr tr' : Trace posix} :
    RecordTaken (tr ++ tr') ↔ RecordTaken tr ∨ RecordTaken tr' := by
  simp only [RecordTaken, List.mem_append, or_and_right, exists_or]

private theorem mute_trace {tr : Trace posix} (h : ∀ e ∈ tr, Mute e) :
    callbacksOf tr = [] ∧ ¬ RecordTaken tr := by
  refine ⟨callbacksOf_eq_nil fun e he ↦ (h e he).1, ?_⟩
  rintro ⟨e, he, w, hw, -⟩
  rw [(h e he).2] at hw
  cases hw

section

variable {t t' : Thread UdtcpClient} {tr : Trace posix}

/-- **The callback of a connection attempt**: it announces the connection exactly if the kernel
takes the client's record whole. -/
theorem callbacksOf_udtcpConnectClient {hostname : List UInt8} {tcpPort : UInt16} {timeout : Int}
    {result : UdtcpConnect} (hcb : t.self.connectCallback = true)
    (h : Exec (udtcpConnectClient hostname tcpPort timeout) t tr result t') :
    (RecordTaken tr ∧ ∃ r, callbacksOf tr = [.connect 1 r]) ∨
      (¬ RecordTaken tr ∧ callbacksOf tr = []) := by
  have hP := connectCalls_mute
  have hflag : UdtcpClient.Stable (·.connectCallback = true) :=
    ⟨fun _ _ hc ↦ hc, fun _ _ hc ↦ hc, fun _ _ hc ↦ hc, fun _ _ hc ↦ hc⟩
  have hcb' : t'.self.connectCallback = true :=
    Maintains.exec
    (I := fun t : Thread UdtcpClient ↦ t.self.connectCallback = true)
    (fun _ ↦ hflag.udtcpConnectClient _ _ _) h hcb
  have hmute {tr : Trace posix} (htr : ∀ e ∈ tr, Mute e) :
      (RecordTaken tr ∧ ∃ r, callbacksOf tr = [.connect 1 r]) ∨
        (¬ RecordTaken tr ∧ callbacksOf tr = []) := .inr (mute_trace htr).symm
  unfold udtcpConnectClient at h
  obtain ⟨tr₁, n, t₁, rest, rfl, h₁, hrest⟩ := exec_bind.mp h
  have hseen₁ := Client.emits_createTcpSocket hP.prepare _ _ _ _ h₁
  rw [exec_ite] at hrest
  split at hrest
  · obtain ⟨tr₂, _, t₂, rest, rfl, h₂, hret⟩ := exec_bind.mp hrest
    obtain ⟨rfl, -⟩ := exec_pure.mp hret
    rw [List.append_nil]
    exact hmute (List.forall_mem_append.mpr ⟨hseen₁, Client.emits_closeTcpSocket hP.prepare
      _ _ _ _ h₂⟩)
  obtain ⟨host, rest, rfl, hhost⟩ := exec_request_bind.mp hrest
  have hasked := hP.host hostname host
  cases host with
  | none =>
    obtain ⟨rfl, -⟩ := exec_pure.mp hhost
    exact hmute (List.forall_mem_append.mpr ⟨hseen₁, List.forall_mem_singleton.mpr hasked⟩)
  | some host =>
    obtain ⟨tr₂, o, t₂, rest, rfl, h₂, hrest⟩ := exec_bind.mp (exec_update_bind.mp hhost)
    have hseen₂ := Client.emits_connectSocket hP.prepare _ _ (fun _ r ↦ hP.sys _ r rfl) _ _ _ _ h₂
    have hseen : ∀ e ∈ tr₁ ++ _ :: tr₂, Mute e :=
      List.forall_mem_append.mpr ⟨hseen₁, List.forall_mem_cons.mpr ⟨hasked, hseen₂⟩⟩
    rw [← List.cons_append, ← List.append_assoc]
    cases o with
    | some result =>
      obtain ⟨rfl, -⟩ := exec_pure.mp hrest
      rw [List.append_nil]
      exact hmute hseen
    | none =>
      obtain ⟨tr₃, result, t₃, rest, rfl, h₃, hend⟩ := exec_bind.mp hrest
      have hfail (hresult : result ≠ .success) : ∀ e ∈ rest, Mute e := by
        have hclose (result result' : UdtcpConnect) : Exec (do
            Client.closeTcpSocket
            return result) t₃ rest result' t' → ∀ e ∈ rest, Mute e :=
          ((Client.emits_closeTcpSocket hP.prepare).bind fun _ ↦ emits_pure _) _ _ _ _
        cases result
        case success => exact absurd rfl hresult
        all_goals exact hclose _ _ hend
      rcases Client.exec_initializeConnection hP.recordCalls h₃ with
        ⟨hresult, hseen₃⟩ | ⟨pre, fd, data, r, rfl, hpre, hresult⟩
      · rw [← List.append_assoc]
        exact hmute (List.forall_mem_append.mpr
          ⟨List.forall_mem_append.mpr ⟨hseen, hseen₃⟩, hfail hresult⟩)
      -- the exchange came to its last step
      have hsent : RecordTaken [⟨.sys (.send fd data), r⟩] ↔ result = .success := by
        rw [hresult]
        simp only [RecordTaken, List.mem_singleton, exists_eq_left]
        cases r with
        | error e => simp [writeOf, UdtcpInfos.sizeof]
        | ok n => simp [writeOf]
      have hsilent : callbacksOf [⟨.sys (.send fd data), r⟩] = [] := rfl
      obtain ⟨hcalled₁, htaken₁⟩ := mute_trace hseen
      obtain ⟨hcalled₂, htaken₂⟩ := mute_trace hpre
      simp only [callbacksOf_append, recordTaken_append, hcalled₁, hcalled₂, hsilent, htaken₁,
        htaken₂, hsent, List.nil_append, false_or]
      by_cases hsuccess : result = .success
      · subst hsuccess
        obtain ⟨tr₄, _, t₄, rest, rfl, h₄, hret⟩ := exec_bind.mp hend
        obtain ⟨rfl, -, rfl⟩ := exec_pure.mp hret
        obtain ⟨pre', r', rfl, hpre'⟩ := Client.exec_adoptServer hP.name h₄
        rw [if_pos hcb', List.append_nil, callbacksOf_append, (mute_trace hpre').1]
        exact .inl ⟨.inl rfl, r', rfl⟩
      · obtain ⟨hcalled₃, htaken₃⟩ := mute_trace (hfail hsuccess)
        rw [hcalled₃]
        exact .inr ⟨fun h ↦ h.elim hsuccess htaken₃, rfl⟩

/-! ### Passes -/

/-- The client shut its connection down. -/
def ShutsDown (tr : Trace posix) : Prop := ∃ e ∈ tr, ∃ fd, e.call = .sys (.shutdown fd)

/-- A connection is shut down in one of two parts. -/
@[simp] theorem shutsDown_append {tr tr' : Trace posix} :
    ShutsDown (tr ++ tr') ↔ ShutsDown tr ∨ ShutsDown tr' := by
  simp only [ShutsDown, List.mem_append, or_and_right, exists_or]

-- A call that shuts nothing down, and calls back with nothing but data.
private def Plain (e : Event posix) : Prop :=
  (∀ cb, callbackOf e.call = some cb → cb.IsData) ∧ ∀ fd, e.call ≠ .sys (.shutdown fd)

private theorem plain_trace {tr : Trace posix} (h : ∀ e ∈ tr, Plain e) :
    (∀ cb ∈ callbacksOf tr, cb.IsData) ∧ ¬ ShutsDown tr := by
  constructor
  · intro cb hcb
    obtain ⟨e, he, hcb⟩ := List.mem_filterMap.mp hcb
    exact (h e he).1 cb hcb
  · rintro ⟨e, he, fd, hfd⟩
    exact (h e he).2 fd hfd

private theorem receiverCalls_plain (fd : Fd) : ReceiverCalls Plain fd where
  poll _ := ⟨nofun, fun _ h ↦ by cases h⟩
  recvWord _ := ⟨nofun, fun _ h ↦ by cases h⟩
  recvBuffer _ _ _ _ _ := ⟨nofun, fun _ h ↦ by cases h⟩
  peek _ := ⟨nofun, fun _ h ↦ by cases h⟩
  take _ _ _ _ _ := ⟨nofun, fun _ h ↦ by cases h⟩
  newBuffer _ _ := ⟨nofun, fun _ h ↦ by cases h⟩
  freeBuffer _ _ := ⟨nofun, fun _ h ↦ by cases h⟩

namespace Client

private theorem emits_onBuffer {P : Event posix → Prop} {α : Type} {p : Proc ReceiveBuffer α}
    (h : Emits P p) : Emits P (onBuffer p) := by
  unfold onBuffer onPart
  exact h.zoom

private theorem emits_receiveTcp : Emits Plain receiveTcp := by
  refine emits_self.bind fun c ↦
    emits_onBuffer (emits_receiveTcpWith (receiverCalls_plain _) (fun f hf data u ↦ ?_) _)
  split at hf
  · cases hf
    refine ⟨fun cb hcb ↦ ?_, fun _ h ↦ by cases h⟩
    cases hcb
    trivial
  · cases hf

private theorem emits_receiveUdp : Emits Plain receiveUdp := by
  refine emits_self.bind fun c ↦
    emits_onBuffer (emits_receiveUdpWith (receiverCalls_plain _).toDatagramCalls
      (fun addr f hf data u ↦ ?_) _)
  have hroute := Option.some.inj hf
  split at hroute
  · cases hroute
    refine ⟨fun cb hcb ↦ ?_, fun _ h ↦ by cases h⟩
    cases hcb
    trivial
  · cases hroute

private theorem emits_drain {receive : ClientProc Int} (h : Emits Plain receive) (fuel : Nat) :
    Emits Plain (drain fuel receive fun n ↦ 0 < n) := by
  have hflag (r) : Plain ⟨.pollLoop, r⟩ := ⟨nofun, fun _ h ↦ by cases h⟩
  unfold drain
  refine h.bind fun n ↦ .loop (fun b ↦ (emits_perform hflag).bind fun on ↦ .ite ?_ ?_) _ _
  · exact h.bind fun _ ↦ emits_pure _
  · exact emits_pure _

-- Plain calls, and, at the end of a pass alone, a disconnection.
private def Parting (o : Option UdtcpPoll) (tr : Trace posix) (t' : Thread UdtcpClient) : Prop :=
  (∀ e ∈ tr, Plain e) ∨ o ≠ none ∧ ∃ pre fd r fd' r' infos,
    tr = pre ++ ⟨.sys (.shutdown fd), r⟩ :: ⟨.sys (.close fd'), r'⟩ ::
      (if t'.self.disconnectCallback then [⟨.callback (.disconnect 1 infos), ()⟩] else []) ∧
    ∀ e ∈ pre, Plain e

private theorem Parting.plain {o : Option UdtcpPoll} {tr : Trace posix} {t' : Thread UdtcpClient}
    (h : Parting o tr t') (ho : o = none) : ∀ e ∈ tr, Plain e :=
  h.elim id fun h ↦ absurd ho h.1

private theorem Parting.append {o : Option UdtcpPoll} {pre tr : Trace posix}
    {t' : Thread UdtcpClient} (hpre : ∀ e ∈ pre, Plain e) (h : Parting o tr t') :
    Parting o (pre ++ tr) t' := by
  rcases h with h | ⟨ho, pre', fd, r, fd', r', infos, rfl, hpre'⟩
  · exact .inl (List.forall_mem_append.mpr ⟨hpre, h⟩)
  · exact .inr ⟨ho, pre ++ pre', fd, r, fd', r', infos, (List.append_assoc _ _ _).symm,
      List.forall_mem_append.mpr ⟨hpre, hpre'⟩⟩

private theorem Parting.cons {o : Option UdtcpPoll} {e : Event posix} {tr : Trace posix}
    {t' : Thread UdtcpClient} (he : Plain e) (h : Parting o tr t') : Parting o (e :: tr) t' := by
  have happend := Parting.append (List.forall_mem_singleton.mpr he) h
  exact happend

/-- Disconnecting is a shutdown, a close and, if that is asked for, a callback. -/
theorem exec_disconnect {u : Unit} (h : Exec disconnect t tr u t') :
    ∃ fd r fd' r' infos, tr = ⟨.sys (.shutdown fd), r⟩ :: ⟨.sys (.close fd'), r'⟩ ::
      (if t'.self.disconnectCallback then [⟨.callback (.disconnect 1 infos), ()⟩] else []) := by
  unfold disconnect at h
  have hshut := exec_self_bind.mp h
  obtain ⟨r, _, rfl, hclose⟩ := exec_syscall_bind.mp hshut
  have hclose' := exec_self_bind.mp hclose
  obtain ⟨r', _, rfl, hend⟩ := exec_syscall_bind.mp hclose'
  have hcall := exec_self_bind.mp (exec_update_bind.mp hend)
  refine ⟨_, r, _, r', t'.self.serverInfos, ?_⟩
  rw [exec_ite] at hcall
  split at hcall
  · next hcb =>
    obtain ⟨x, rfl, rfl⟩ := exec_issue.mp hcall
    rw [if_pos hcb]
  · next hcb =>
    obtain ⟨rfl, -, rfl⟩ := exec_pure.mp hcall
    rw [if_neg hcb]

private theorem parting_serveSocket {fuel : Nat} {receive : ClientProc Int} {o : Option UdtcpPoll}
    (hreceive : Emits Plain receive) (h : Exec (serveSocket fuel receive) t tr o t') :
    Parting o tr t' := by
  unfold serveSocket at h
  obtain ⟨tr₁, ret, t₁, rest, rfl, h₁, hrest⟩ := exec_bind.mp h
  refine .append (emits_drain hreceive fuel _ _ _ _ h₁) ?_
  have hdrop (h : Exec (disconnect >>= fun _ ↦ pure (some UdtcpPoll.error)) t₁ rest o t') :
      Parting o rest t' := by
    obtain ⟨tr₂, _, t₂, _, rfl, hdis, hret⟩ := exec_bind.mp h
    obtain ⟨rfl, rfl, rfl⟩ := exec_pure.mp hret
    obtain ⟨fd, r, fd', r', infos, rfl⟩ := exec_disconnect hdis
    rw [List.append_nil]
    exact .inr ⟨nofun, [], fd, r, fd', r', infos, rfl, List.forall_mem_nil _⟩
  have hstay (h : Exec (pure none : ClientProc (Option UdtcpPoll)) t₁ rest o t') :
      Parting o rest t' := by
    obtain ⟨rfl, -⟩ := exec_pure.mp h
    exact .inl (List.forall_mem_nil _)
  rw [exec_ite] at hrest
  split at hrest
  · have hfailed := exec_errno_bind.mp hrest
    rw [exec_ite] at hfailed
    split at hfailed
    · exact hdrop hfailed
    · exact hstay hfailed
  · rw [exec_ite] at hrest
    split at hrest
    · exact hdrop hrest
    · exact hstay hrest

private theorem parting_serveEntry {fuel i : Nat} {o : Option UdtcpPoll}
    (h : Exec (serveEntry fuel i) t tr o t') : Parting o tr t' := by
  have hpure {o' : Option UdtcpPoll}
      (h : Exec (pure o' : ClientProc (Option UdtcpPoll)) t tr o t') :
      Parting o tr t' := by
    obtain ⟨rfl, -⟩ := exec_pure.mp h
    exact .inl (List.forall_mem_nil _)
  unfold serveEntry at h
  have hentry := exec_self_bind.mp h
  dsimp only at hentry
  rw [exec_ite] at hentry
  split at hentry
  · exact hpure hentry
  rw [exec_ite] at hentry
  split at hentry
  · exact hpure hentry
  rw [exec_ite] at hentry
  split at hentry
  · exact parting_serveSocket emits_receiveTcp hentry
  rw [exec_ite] at hentry
  split at hentry
  · exact parting_serveSocket emits_receiveUdp hentry
  · exact hpure hentry

private theorem parting_scanEntry {fuel i : Nat} {o : Nat ⊕ UdtcpPoll}
    (h : Exec (scanEntry fuel i) t tr o t') : Parting o.getRight? tr t' := by
  have hflag (r) : Plain ⟨.pollLoop, r⟩ := ⟨nofun, fun _ h ↦ by cases h⟩
  unfold scanEntry at h
  obtain ⟨on, rest, rfl, hrest⟩ := exec_request_bind.mp h
  refine .cons (hflag on) ?_
  have hround := exec_self_bind.mp hrest
  rw [exec_ite] at hround
  split at hround
  · obtain ⟨tr₁, o', t₁, _, rfl, h₁, hret⟩ := exec_bind.mp hround
    have hserved := parting_serveEntry h₁
    cases o' with
    | none =>
      obtain ⟨rfl, rfl, rfl⟩ := exec_pure.mp hret
      rw [List.append_nil]
      exact hserved
    | some result =>
      obtain ⟨rfl, rfl, rfl⟩ := exec_pure.mp hret
      rw [List.append_nil]
      exact hserved
  · obtain ⟨rfl, -⟩ := exec_pure.mp hround
    exact .inl (List.forall_mem_nil _)

end Client

/-- **The callbacks of a pass**: any data, and behind it one disconnection exactly if the client
shuts its connection down. -/
theorem callbacksOf_udtcpClientPoll {fuel : Nat} {timeout : Int} {result : UdtcpPoll}
    (hcb : t.self.disconnectCallback = true)
    (h : Exec (udtcpClientPoll fuel timeout) t tr result t') :
    (ShutsDown tr ∧ ∃ data r, callbacksOf tr = data ++ [.disconnect 1 r] ∧ ∀ cb ∈ data, cb.IsData) ∨
      (¬ ShutsDown tr ∧ ∀ cb ∈ callbacksOf tr, cb.IsData) := by
  have hflag : UdtcpClient.Stable (·.disconnectCallback = true) :=
    ⟨fun _ _ hc ↦ hc, fun _ _ hc ↦ hc, fun _ _ hc ↦ hc, fun _ _ hc ↦ hc⟩
  have hcb' : t'.self.disconnectCallback = true := Maintains.exec
    (I := fun t : Thread UdtcpClient ↦ t.self.disconnectCallback = true)
    (fun _ ↦ hflag.udtcpClientPoll _ _) h hcb
  have hpart : Client.Parting (some result) tr t' := by
    unfold udtcpClientPoll at h
    have hpoll := exec_self_bind.mp h
    obtain ⟨reply, rest, rfl, hrest⟩ := exec_syscall_bind.mp hpoll
    refine .cons ⟨nofun, fun _ h ↦ by cases h⟩ ?_
    cases reply with
    | error e =>
      have hret := exec_errno_bind.mp hrest
      rw [exec_ite] at hret
      split at hret
      · obtain ⟨rfl, -⟩ := exec_pure.mp hret
        exact .inl (List.forall_mem_nil _)
      · obtain ⟨rfl, -⟩ := exec_pure.mp hret
        exact .inl (List.forall_mem_nil _)
    | ok revents =>
      have hscan := exec_update_bind.mp hrest
      rw [exec_ite] at hscan
      split at hscan
      · obtain ⟨rfl, -⟩ := exec_pure.mp hscan
        exact .inl (List.forall_mem_nil _)
      · obtain ⟨tr₁, i, t₁, tr₂, rfl, hrounds, hlast⟩ := exec_loop_rounds hscan
        refine .append ?_ (Client.parting_scanEntry hlast)
        exact hrounds.forall_mem fun _ _ _ _ _ hround ↦ (Client.parting_scanEntry hround).plain rfl
  rcases hpart with hplain | ⟨-, pre, fd, r, fd', r', infos, rfl, hpre⟩
  · exact .inr (plain_trace hplain).symm
  · obtain ⟨hdata, -⟩ := plain_trace hpre
    refine .inl ⟨⟨_, List.mem_append_right _ (List.mem_cons_self ..), fd, rfl⟩, _, infos, ?_, hdata⟩
    rw [if_pos hcb', callbacksOf_append]
    rfl

end

end Udtcp
