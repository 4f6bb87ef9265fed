import Udtcp.Server.Possible
import Udtcp.Client.Connect

/-!
# What a handshake writes

The two `initialize_connection` of `server_poll.c:69–88` and `connect_client.c:113–136` receive one
byte more than a record, to notice a peer that sends too much. That byte comes to lie behind the
record: in the next one of the table, in the first send structure behind the last one, and in the
send structure of a client.
-/

namespace Udtcp

open Interaction Routine Bytes

/-- The memory of the send structures, and what a peer sent behind its record. -/
structure Surroundings where
  sends : UInt64 → UdtcpSend
  stray : List UInt8

/-- Send structures are cells of memory; of a record that is received, what exceeds it is noted. -/
def recordKernel : Kernel posix Surroundings
  | k, .loadSend a, v, k' => v = k.sends a ∧ k' = k
  | k, .storeSend a v, _, k' => k' = { k with sends := Function.update k.sends a v }
  | k, .sys (.recv _ .record _), .ok bs, k' =>
      k' = { k with stray := bs.val.drop UdtcpInfos.sizeof }
  | k, _, _, k' => k' = k

namespace UdtcpInfos

/-- One byte received over a record leaves it as it was exactly if it is its first one. -/
theorem patch_byte_eq_self_iff (r : UdtcpInfos) (b : UInt8) :
    r.patch 0 [b] = r ↔ [b] <+: r.encode := by
  constructor
  · intro h
    have hid := (field_patch_eq_iff Codec.exact_u64 (f := (·.id)) (o := 0) (fun _ ↦ rfl) (by decide)
      r [b]).mp (congrArg (·.id) h)
    exact List.IsPrefix.trans hid (List.prefix_append _ _)
  · rintro ⟨rest, h⟩
    have hpatch : Bytes.patch r.encode 0 [b] = r.encode := by
      rw [← h]
      rfl
    rw [patch]
    exact (congrArg decode hpatch).trans r.decode_encode

end UdtcpInfos

/-- The first byte of a mutex stays as it was exactly if it is written again. -/
theorem mutex_set_eq_self_iff (v : Vector UInt8 40) (b : UInt8) :
    v.set 0 b UdtcpSend.mutex_pos = v ↔ [b] <+: v.toList := by
  obtain ⟨⟨l⟩, hl⟩ := v
  cases l with
  | nil => cases hl
  | cons a l => simp

section

variable {m : Nat} {slot : Nat}

namespace UdtcpServer

@[simp] private theorem setInfos_setInfos (s : UdtcpServer m) (slot : Nat) (r r' : UdtcpInfos) :
    (s.setInfos slot r).setInfos slot r' = s.setInfos slot r' := by
  simp [setInfos]

@[simp] private theorem setInfos_infos_self (s : UdtcpServer m) (slot : Nat) :
    s.setInfos slot (s.infos slot) = s := by
  simp [setInfos]

/-- Nothing of the server but `infos[slot]` changed. -/
def OnlySlot (s : UdtcpServer m) (slot : Nat) (s' : UdtcpServer m) : Prop :=
  s' = s.setInfos slot (s'.infos slot)

/-- The bytes of the object behind `infos[slot]`. -/
def behind (s : UdtcpServer m) (sends : UInt64 → UdtcpSend) (slot : Nat) : List UInt8 :=
  if slot + 1 < pollTableSize m then (s.infos (slot + 1)).encode
  else (sends (s.sendAddr 0)).mutex.toList

private theorem onlySlot_refl (s : UdtcpServer m) (slot : Nat) : s.OnlySlot slot s :=
  (s.setInfos_infos_self slot).symm

private theorem onlySlot_modifyInfos_iff {s s' : UdtcpServer m} (f : UdtcpInfos → UdtcpInfos) :
    s.OnlySlot slot (s'.modifyInfos slot f) ↔ s.OnlySlot slot s' := by
  unfold OnlySlot modifyInfos
  rw [infos_setInfos_self]
  constructor
  · intro h
    have hback := congrArg (·.setInfos slot (s'.infos slot)) h
    simpa using hback
  · intro h
    have hset := congrArg (·.setInfos slot (f (s'.infos slot))) h
    simpa using hset

/-- A change of the record behind `infos[slot]` is seen unless it leaves that record as it is. -/
theorem onlySlot_modifyInfos_succ_iff {s s' : UdtcpServer m} (h : s.OnlySlot slot s')
    (f : UdtcpInfos → UdtcpInfos) :
    s.OnlySlot slot (s'.modifyInfos (slot + 1) f) ↔
      f (s.infos (slot + 1)) = s.infos (slot + 1) := by
  have hne : slot + 1 ≠ slot := Nat.succ_ne_self slot
  have hnext : s'.infos (slot + 1) = s.infos (slot + 1) := by
    rw [show s' = _ from h]
    exact Function.update_of_ne hne _ _
  have hslot := s'.infos_modifyInfos_of_ne f hne.symm
  constructor
  · intro hs
    have hrecord := congrArg (·.infos (slot + 1)) hs
    simp only [infos_modifyInfos_self, hnext] at hrecord
    exact hrecord.trans (Function.update_of_ne hne _ _)
  · intro hf
    have hsame : s'.modifyInfos (slot + 1) f = s' := by
      rw [modifyInfos, hnext, hf, ← hnext, setInfos_infos_self]
    rw [hsame]
    exact h

end UdtcpServer

/-- A byte written into the mutex of a send structure changes nothing exactly if it is there. -/
theorem update_mutex_eq_self_iff (sends : UInt64 → UdtcpSend) (a : UInt64) (b : UInt8) :
    Function.update sends a
        { sends a with mutex := (sends a).mutex.set 0 b UdtcpSend.mutex_pos } = sends ↔
      [b] <+: (sends a).mutex.toList := by
  rw [Function.update_eq_self_iff, ← mutex_set_eq_self_iff]
  constructor
  · exact fun h ↦ congrArg UdtcpSend.mutex h
  · intro h
    rw [h]

/-- The byte that exceeds a record, if there is one. -/
theorem drop_sizeof_eq {bs : List UInt8} (hbs : bs.length ≤ UdtcpInfos.sizeof + 1) :
    bs.drop UdtcpInfos.sizeof = bs[UdtcpInfos.sizeof]?.toList := by
  rw [← List.head?_drop]
  have hlen : (bs.drop UdtcpInfos.sizeof).length ≤ 1 := by
    rw [List.length_drop]
    omega
  match bs.drop UdtcpInfos.sizeof, hlen with
  | [], _ => rfl
  | [b], _ => rfl

variable {t : Thread (UdtcpServer m)} {k : Surroundings}

/-- What is received over a record stays in it, unless it brings another byte behind it. -/
theorem must_writeRecord_frame {bs : List UInt8} (hbs : bs.length ≤ UdtcpInfos.sizeof + 1)
    (hk : k.stray = bs.drop UdtcpInfos.sizeof) :
    Must recordKernel (writeRecord slot bs) t k fun _ t' k' ↦
      (t.self.OnlySlot slot t'.self ∧ k'.sends = k.sends ↔
        k'.stray <+: t.self.behind k.sends slot) := by
  rw [drop_sizeof_eq hbs] at hk
  have honly : t.self.OnlySlot slot (t.self.modifyInfos slot (·.patch 0 bs)) :=
    (UdtcpServer.onlySlot_modifyInfos_iff _).mpr (t.self.onlySlot_refl slot)
  unfold writeRecord
  refine must_update_bind ?_
  cases hb : bs[UdtcpInfos.sizeof]? with
  | none =>
    rw [hb] at hk
    refine must_pure (iff_of_true ⟨honly, rfl⟩ ?_)
    rw [hk]
    exact List.nil_prefix
  | some b =>
    rw [hb] at hk
    refine must_ite (fun hinner ↦ must_update ?_) fun hlast ↦ must_self_bind ?_
    · rw [hk, UdtcpServer.behind, if_pos hinner, and_iff_left rfl,
        UdtcpServer.onlySlot_modifyInfos_succ_iff honly]
      exact UdtcpInfos.patch_byte_eq_self_iff _ b
    · refine must_request_bind fun v k₁ hv ↦ must_issue fun _ k₂ hstore ↦ ?_
      obtain ⟨rfl, rfl⟩ := hv
      obtain rfl := hstore
      rw [UdtcpServer.behind, if_neg hlast, and_iff_right honly, hk]
      exact update_mutex_eq_self_iff _ _ b

/-- **The server's handshake.** -/
theorem must_initializeConnection_frame (hk : k.stray = []) :
    Must recordKernel (initializeConnection slot) t k fun _ t' k' ↦
      (t.self.OnlySlot slot t'.self ∧ k'.sends = k.sends ↔
        k'.stray <+: t.self.behind k.sends slot) := by
  have hend {n : Int} {t₁ : Thread (UdtcpServer m)} (ht₁ : t₁.self = t.self) :
      Must recordKernel (pure n : ServerProc m Int) t₁ k fun _ t' k' ↦
        (t.self.OnlySlot slot t'.self ∧ k'.sends = k.sends ↔
          k'.stray <+: t.self.behind k.sends slot) := by
    refine must_pure (iff_of_true ⟨?_, rfl⟩ ?_)
    · rw [ht₁]
      exact t.self.onlySlot_refl slot
    · rw [hk]
      exact List.nil_prefix
  unfold initializeConnection
  refine must_self_bind (must_syscall_bind fun sent k₁ hsent ↦ ?_)
  obtain rfl : k = k₁ := hsent.symm
  refine must_ite (fun _ ↦ hend (Thread.note_self _ _)) fun _ ↦ must_bind ?_
  refine must_syscall_bind fun polled k₁ hpolled ↦ must_pure ?_
  obtain rfl : k = k₁ := hpolled.symm
  have hself : ((t.note sent).note polled).self = t.self := by
    rw [Thread.note_self, Thread.note_self]
  refine must_ite (fun _ ↦ hend hself) fun _ ↦ must_self_bind
    (must_syscall_bind fun got k₁ hgot ↦ ?_)
  cases got with
  | error e =>
    obtain rfl : k = k₁ := hgot.symm
    exact hend hself
  | ok bs =>
    obtain rfl := hgot
    refine must_bind ((must_writeRecord_frame bs.property rfl).mono fun _ t₁ k₁ honly ↦ ?_)
    rw [Thread.note_ok, hself] at honly
    refine must_ite (fun _ ↦ must_pure honly) fun _ ↦ must_self_bind (must_update_bind ?_)
    refine must_pure ?_
    rw [UdtcpServer.onlySlot_modifyInfos_iff]
    exact honly

end

/-! ### The client -/

namespace Client

/-- Nothing of the client but the record of its server changed. -/
def OnlyServerInfos (c c' : UdtcpClient) : Prop := c' = { c with serverInfos := c'.serverInfos }

@[simp] private theorem sendAddr_serverInfos (c : UdtcpClient) (r : UdtcpInfos) :
    { c with serverInfos := r }.sendAddr = c.sendAddr := rfl

variable {t : Thread UdtcpClient} {k : Surroundings}

private theorem must_writeRecord_frame {bs : List UInt8} (hbs : bs.length ≤ UdtcpInfos.sizeof + 1)
    (hk : k.stray = bs.drop UdtcpInfos.sizeof) :
    Must recordKernel (writeRecord bs) t k fun _ t' k' ↦
      (OnlyServerInfos t.self t'.self ∧ k'.sends = k.sends ↔
        k'.stray <+: (k.sends t.self.sendAddr).mutex.toList) := by
  have honly : OnlyServerInfos t.self
      { t.self with serverInfos := t.self.serverInfos.patch 0 bs } :=
    rfl
  rw [drop_sizeof_eq hbs] at hk
  unfold writeRecord
  refine must_update_bind ?_
  cases hb : bs[UdtcpInfos.sizeof]? with
  | none =>
    rw [hb] at hk
    refine must_pure (iff_of_true ⟨honly, rfl⟩ ?_)
    rw [hk]
    exact List.nil_prefix
  | some b =>
    rw [hb] at hk
    refine must_self_bind (must_request_bind fun v k₁ hv ↦ must_issue fun _ k₂ hstore ↦ ?_)
    obtain ⟨rfl, hk₁⟩ := hv
    obtain rfl : k = k₁ := hk₁.symm
    obtain rfl := hstore
    rw [and_iff_right honly, hk]
    simp only [sendAddr_serverInfos]
    exact update_mutex_eq_self_iff k.sends t.self.sendAddr b

/-- **The client's handshake.** -/
theorem must_initializeConnection_frame (hk : k.stray = []) :
    Must recordKernel initializeConnection t k fun _ t' k' ↦
      (OnlyServerInfos t.self t'.self ∧ k'.sends = k.sends ↔
        k'.stray <+: (k.sends t.self.sendAddr).mutex.toList) := by
  have hend {result : UdtcpConnect} {t₁ : Thread UdtcpClient} (ht₁ : t₁.self = t.self) :
      Must recordKernel (pure result : ClientProc UdtcpConnect) t₁ k fun _ t' k' ↦
        (OnlyServerInfos t.self t'.self ∧ k'.sends = k.sends ↔
          k'.stray <+: (k.sends t.self.sendAddr).mutex.toList) := by
    refine must_pure (iff_of_true ⟨?_, rfl⟩ ?_)
    · rw [ht₁]
      rfl
    · rw [hk]
      exact List.nil_prefix
  unfold initializeConnection
  refine must_self_bind (must_bind (must_syscall_bind fun polled k₁ hpolled ↦ must_pure ?_))
  obtain rfl : k = k₁ := hpolled.symm
  have hself : (t.note polled).self = t.self := Thread.note_self _ _
  refine must_ite (fun _ ↦ hend hself) fun _ ↦ must_ite (fun _ ↦ must_setErrno_bind (hend hself))
    fun _ ↦ must_syscall_bind fun got k₁ hgot ↦ ?_
  cases got with
  | error e =>
    obtain rfl : k = k₁ := hgot.symm
    exact hend hself
  | ok bs =>
    obtain rfl := hgot
    refine must_bind ((must_writeRecord_frame bs.property rfl).mono fun _ t₁ k₁ honly ↦ ?_)
    rw [Thread.note_ok, hself] at honly
    refine must_ite (fun _ ↦ must_pure honly) fun _ ↦ must_ite
      (fun _ ↦ must_ite (fun _ ↦ must_pure honly) fun _ ↦ must_pure honly) fun _ ↦ must_self_bind ?_
    refine must_syscall_bind fun sent k₂ hsent ↦ ?_
    obtain rfl : k₁ = k₂ := hsent.symm
    cases sent with
    | error e => exact must_pure honly
    | ok n => exact must_ite (fun _ ↦ must_pure honly) fun _ ↦ must_pure honly

end Client

/-! ### Handshakes that happen -/

/-- Some run of the routine leaves `stray` noted. -/
def MayNote {τ α : Type} (p : Proc τ α) (t : Thread τ) (k : Surroundings) (stray : List UInt8) :
    Prop :=
  May p t fun tr _ _ ↦ ∃ k', recordKernel.Accepts k tr k' ∧ k'.stray = stray

private theorem mayNote_pure {τ α : Type} (a : α) (t : Thread τ) (k : Surroundings) :
    MayNote (pure a) t k k.stray := may_pure ⟨k, rfl, rfl⟩

private theorem MayNote.bind {τ α β : Type} {p : Proc τ α} {f : α → Proc τ β} {t : Thread τ}
    {k : Surroundings} {stray : List UInt8} (h : MayNote p t k k.stray)
    (hf : ∀ a t' k', k'.stray = k.stray → MayNote (f a) t' k' stray) :
    MayNote (p >>= f) t k stray := by
  refine may_bind (May.mono h ?_)
  rintro tr a t' ⟨k₁, ha, hk₁⟩
  refine (hf a t' k₁ hk₁).mono ?_
  rintro tr' b t'' ⟨k₂, ha', hk₂⟩
  exact ⟨k₂, (Kernel.accepts_append _).mpr ⟨k₁, ha, ha'⟩, hk₂⟩

private theorem mayNote_syscall_bind {τ α : Type} {c : SysCall}
    {f : Except Errno c.Result → Proc τ α}
    {t : Thread τ} {k k' : Surroundings} {stray : List UInt8} (r : Except Errno c.Result)
    (hr : recordKernel k (.sys c) r k') (h : MayNote (f r) (t.note r) k' stray) :
    MayNote (syscall c >>= f) t k stray := by
  refine may_syscall_bind r (May.mono h ?_)
  rintro tr a t' ⟨k'', ha, hk⟩
  exact ⟨k'', ⟨k', hr, ha⟩, hk⟩

private theorem mayNote_storeByte {τ : Type} (addr : UInt64) (b : UInt8) (t : Thread τ)
    (k : Surroundings) : MayNote (do
      let value ← request (.loadSend addr)
      issue (.storeSend addr { value with mutex := value.mutex.set 0 b UdtcpSend.mutex_pos })) t k
        k.stray :=
  may_request_bind (k.sends addr) (may_issue () ⟨_, ⟨k, ⟨rfl, rfl⟩, _, rfl, rfl⟩, rfl⟩)

private theorem mayNote_writeRecord (t : Thread (UdtcpServer m)) (slot : Nat) (bs : List UInt8)
    (k : Surroundings) : MayNote (writeRecord slot bs) t k k.stray := by
  unfold writeRecord
  refine may_update_bind ?_
  cases bs[UdtcpInfos.sizeof]? with
  | none => exact mayNote_pure _ _ k
  | some b =>
    by_cases hinner : slot + 1 < pollTableSize m
    · exact may_if_pos hinner (may_update ⟨k, rfl, rfl⟩)
    · exact may_if_neg hinner (may_self_bind (mayNote_storeByte _ b _ k))

private theorem mayNote_initializeConnection (t : Thread (UdtcpServer m)) (slot : Nat)
    (bs : {bs : List UInt8 // bs.length ≤ UdtcpInfos.sizeof + 1}) (k : Surroundings) :
    MayNote (initializeConnection slot) t k (bs.val.drop UdtcpInfos.sizeof) := by
  have hsize : UdtcpInfos.sizeof ≤ t.self.serverInfos.encode.length :=
    Nat.le_of_eq (UdtcpInfos.length_encode _).symm
  simp only [initializeConnection, pollIn, bind_assoc, pure_bind]
  refine may_self_bind (mayNote_syscall_bind (.ok ⟨UdtcpInfos.sizeof, hsize⟩) rfl ?_)
  refine may_if_neg (by simp) (mayNote_syscall_bind (.ok (Vector.replicate 1 POLLIN)) rfl ?_)
  refine may_if_neg (show ¬ (1 : Int) ≤ 0 by decide) (may_self_bind ?_)
  refine mayNote_syscall_bind (.ok bs) rfl ?_
  refine (mayNote_writeRecord _ slot bs.val _).bind fun _ t₁ k₁ hk₁ ↦ ?_
  have hnoted : k₁.stray = bs.val.drop UdtcpInfos.sizeof := hk₁
  rw [← hnoted]
  by_cases hlen : bs.val.length = UdtcpInfos.sizeof
  · exact may_if_neg (not_not.mpr hlen) (may_self_bind (may_update_bind (mayNote_pure _ _ k₁)))
  · exact may_if_pos hlen (mayNote_pure _ _ k₁)

private theorem Client.mayNote_writeRecord (t : Thread UdtcpClient) (bs : List UInt8)
    (k : Surroundings) : MayNote (Client.writeRecord bs) t k k.stray := by
  unfold Client.writeRecord
  refine may_update_bind ?_
  cases bs[UdtcpInfos.sizeof]? with
  | none => exact mayNote_pure _ _ k
  | some b => exact may_self_bind (mayNote_storeByte _ b _ k)

private theorem Client.mayNote_initializeConnection (t : Thread UdtcpClient)
    (bs : {bs : List UInt8 // bs.length ≤ UdtcpInfos.sizeof + 1}) (k : Surroundings) :
    MayNote Client.initializeConnection t k (bs.val.drop UdtcpInfos.sizeof) := by
  simp only [Client.initializeConnection, pollIn, bind_assoc, pure_bind]
  refine may_self_bind (mayNote_syscall_bind (.ok (Vector.replicate 1 POLLIN)) rfl ?_)
  refine may_if_neg (show ¬ (1 : Int) < 0 by decide)
    (may_if_neg (show ¬ (1 : Int) = 0 by decide) ?_)
  refine mayNote_syscall_bind (.ok bs) rfl ?_
  refine (Client.mayNote_writeRecord _ bs.val _).bind fun _ t₁ k₁ hk₁ ↦ ?_
  have hnoted : k₁.stray = bs.val.drop UdtcpInfos.sizeof := hk₁
  rw [← hnoted]
  by_cases hzero : bs.val.length = 0
  · exact may_if_pos hzero (mayNote_pure _ _ k₁)
  refine may_if_neg hzero ?_
  by_cases hlen : bs.val.length = UdtcpInfos.sizeof
  · refine may_if_neg (not_not.mpr hlen) (may_self_bind ?_)
    exact mayNote_syscall_bind (.error (.other 0)) rfl (mayNote_pure _ _ k₁)
  refine may_if_pos hlen ?_
  by_cases hone : bs.val.length = 1
  · exact may_if_neg (not_not.mpr hone) (mayNote_pure _ _ k₁)
  · exact may_if_pos hone (mayNote_pure _ _ k₁)

-- A full record, and one byte more.
private def overlongRecord : {bs : List UInt8 // bs.length ≤ UdtcpInfos.sizeof + 1} :=
  ⟨List.replicate (UdtcpInfos.sizeof + 1) 1, Nat.le_of_eq List.length_replicate⟩

private theorem drop_overlongRecord : overlongRecord.val.drop UdtcpInfos.sizeof = [1] := by
  rw [overlongRecord, List.drop_replicate, Nat.add_sub_cancel_left]
  rfl

/-- **What a handshake writes.** Whatever the peer sends, a handshake changes nothing but its record
if and only if no byte comes behind that, or the one that is there anyway. -/
theorem handshake_writes_record_iff (m : Nat) :
    (∀ (t t' : Thread (UdtcpServer m)) tr n sends k', t.self.pollNfds < pollTableSize m →
      Exec (initializeConnection t.self.pollNfds) t tr n t' →
      recordKernel.Accepts ⟨sends, []⟩ tr k' →
      (t.self.OnlySlot t.self.pollNfds t'.self ∧ k'.sends = sends ↔
        k'.stray <+: t.self.behind sends t.self.pollNfds)) ∧
    (∀ (t t' : Thread UdtcpClient) tr result sends k',
      Exec Client.initializeConnection t tr result t' →
      recordKernel.Accepts ⟨sends, []⟩ tr k' →
      (Client.OnlyServerInfos t.self t'.self ∧ k'.sends = sends ↔
        k'.stray <+: (sends t.self.sendAddr).mutex.toList)) :=
  ⟨fun _ t' tr n sends k' _ h ha ↦
      must_initializeConnection_frame (k := ⟨sends, []⟩) rfl tr n t' k' h ha,
    fun _ t' tr result sends k' h ha ↦
      Client.must_initializeConnection_frame (k := ⟨sends, []⟩) rfl tr result t' k' h ha⟩

/-- A peer that sends exactly a record. -/
theorem handshake_writes_record_exact :
    (∃ (t t' : Thread (UdtcpServer 42)) (tr : Trace posix) (n : Int),
      Exec (initializeConnection t.self.pollNfds) t tr n t' ∧
      t.self.OnlySlot t.self.pollNfds t'.self) ∧
    ∃ (t t' : Thread UdtcpClient) (tr : Trace posix) (result : UdtcpConnect),
      Exec Client.initializeConnection t tr result t' ∧ Client.OnlyServerInfos t.self t'.self := by
  have hnone : blankRecord.val.drop UdtcpInfos.sizeof = [] :=
    List.drop_eq_nil_of_le (Nat.le_of_eq length_blankRecord)
  constructor
  · obtain ⟨tr, n, t', h, k', ha, hk⟩ := mayNote_initializeConnection
      (⟨.other 0, .listening 3 4⟩ : Thread (UdtcpServer 42)) 2 blankRecord ⟨fun _ ↦ .zero, []⟩
    refine ⟨_, t', tr, n, h, (((handshake_writes_record_iff 42).1 _ _ _ _ _ k' (by decide) h ha).mpr
      ?_).1⟩
    rw [hk, hnone]
    exact List.nil_prefix
  · obtain ⟨tr, result, t', h, k', ha, hk⟩ := Client.mayNote_initializeConnection
      ⟨.other 0, .zero 0⟩ blankRecord ⟨fun _ ↦ .zero, []⟩
    refine ⟨_, t', tr, result, h, (((handshake_writes_record_iff 42).2 _ _ _ _ _ k' h ha).mpr ?_).1⟩
    rw [hk, hnone]
    exact List.nil_prefix

/-- **The defect.** A byte behind the record changes the next record of the table, behind the last
one the first send structure, and on a client its send structure. -/
theorem handshake_overruns_record :
    (∃ (t t' : Thread (UdtcpServer 42)) (tr : Trace posix) (n : Int) (k' : Surroundings),
      t.self = .listening 3 4 ∧ Exec (initializeConnection t.self.pollNfds) t tr n t' ∧
      recordKernel.Accepts ⟨fun _ ↦ .zero, []⟩ tr k' ∧
      ¬ (t.self.OnlySlot t.self.pollNfds t'.self ∧ k'.sends = fun _ ↦ .zero)) ∧
    (∃ (t t' : Thread (UdtcpServer 1)) (tr : Trace posix) (n : Int) (k' : Surroundings),
      t.self = .listening 3 4 ∧ Exec (initializeConnection t.self.pollNfds) t tr n t' ∧
      recordKernel.Accepts ⟨fun _ ↦ .zero, []⟩ tr k' ∧
      ¬ (t.self.OnlySlot t.self.pollNfds t'.self ∧ k'.sends = fun _ ↦ .zero)) ∧
    ∃ (t t' : Thread UdtcpClient) (tr : Trace posix) (result : UdtcpConnect) (k' : Surroundings),
      Exec Client.initializeConnection t tr result t' ∧
      recordKernel.Accepts ⟨fun _ ↦ .zero, []⟩ tr k' ∧
      ¬ (Client.OnlyServerInfos t.self t'.self ∧ k'.sends = fun _ ↦ .zero) := by
  have hmutex : ¬ [1] <+: UdtcpSend.zero.mutex.toList := by decide
  have hrecord : ¬ [1] <+: UdtcpInfos.zero.encode := by decide
  refine ⟨?_, ?_, ?_⟩
  · obtain ⟨tr, n, t', h, k', ha, hk⟩ := mayNote_initializeConnection
      (⟨.other 0, .listening 3 4⟩ : Thread (UdtcpServer 42)) 2 overlongRecord ⟨fun _ ↦ .zero, []⟩
    refine ⟨_, t', tr, n, k', rfl, h, ha, fun honly ↦ hrecord ?_⟩
    rw [← drop_overlongRecord, ← hk]
    exact (must_initializeConnection_frame rfl tr n t' k' h ha).mp honly
  · obtain ⟨tr, n, t', h, k', ha, hk⟩ := mayNote_initializeConnection
      (⟨.other 0, .listening 3 4⟩ : Thread (UdtcpServer 1)) 2 overlongRecord ⟨fun _ ↦ .zero, []⟩
    refine ⟨_, t', tr, n, k', rfl, h, ha, fun honly ↦ hmutex ?_⟩
    rw [← drop_overlongRecord, ← hk]
    exact (must_initializeConnection_frame rfl tr n t' k' h ha).mp honly
  · obtain ⟨tr, result, t', h, k', ha, hk⟩ := Client.mayNote_initializeConnection
      ⟨.other 0, .zero 0⟩ overlongRecord ⟨fun _ ↦ .zero, []⟩
    refine ⟨_, t', tr, result, k', h, ha, fun honly ↦ hmutex ?_⟩
    rw [← drop_overlongRecord, ← hk]
    exact (Client.must_initializeConnection_frame rfl tr result t' k' h ha).mp honly

end Udtcp
