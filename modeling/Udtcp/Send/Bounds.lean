import Udtcp.Send.Guarded

/-!
# Where `buffer_copy` writes

`udtcp/src/send.c:33–59`. The growth test compares sizes of messages, the allocation adds four bytes
to one and keeps 32 bits of the sum, and the two copies are made whether or not the buffer grew.
-/

namespace Udtcp

open Interaction Routine

/-- One call of `buffer_copy`: its message, and whether the allocator would grant a request. -/
structure Copying where
  data : Payload
  granted : Bool

/-- The surroundings of one call: the send structure at `addr` is a cell of memory, requests for
memory are granted or refused, and no access may be made through a null pointer. -/
def copyContract (addr : UInt64) (granted : Bool) : Contract posix UdtcpSend where
  Allows _
    | .fault => False
    | _ => True
  Answers s
    | .sys (.newBuffer _), r, s' => r.isOk = granted ∧ s' = s
    | c, r, s' => sendKernel addr s c r s'

/-- Size and message stand where the offset pointers point, inside the memory asked for. -/
def UdtcpSend.CopiedWithin (s : UdtcpSend) (data : List UInt8) : Prop :=
  ∃ b sizeOffset payloadOffset, s.buffer = some b ∧ s.sizeOffset = some sizeOffset ∧
    s.payloadOffset = some payloadOffset ∧ sizeOffset + 4 ≤ b.cap ∧
    payloadOffset + data.length ≤ b.cap ∧
    b.mem.read sizeOffset 4 = Bytes.leBytes 4 data.length ∧
    b.mem.read payloadOffset data.length = data

/-- A call of `buffer_copy` stays in bounds: it writes through no null pointer, and returns `0` with
everything copied inside the buffer or `-1` with the structure as it was. -/
def Copying.InBounds (c : Copying) (addr : UInt64) (s : UdtcpSend) : Prop :=
  ∀ {τ : Type} (t : Thread τ), Safe (copyContract addr c.granted) (bufferCopy addr c.data) t s
    fun n _ s' ↦ n = 0 ∧ s'.CopiedWithin c.data.val ∨ n = -1 ∧ s' = s

/-- The message is not an empty one before the first buffer, and a `uint32_t` can measure its frame
or there is no memory for it. -/
def Copying.Measured (c : Copying) (s : UdtcpSend) : Prop :=
  (s.buffer = none → 0 < c.data.val.length) ∧ (c.granted → c.data.val.length + 4 < 2 ^ 32)

/-- The states of the send structure at `addr` after measured calls of `buffer_copy`, from the
zeroed one on. -/
inductive Copied (addr : UInt64) : UdtcpSend → Prop
  | zero : Copied addr .zero
  | call {s s' : UdtcpSend} {c : Copying} {τ : Type} {t t' : Thread τ} {tr : Trace posix} {n : Int}
      (h : Copied addr s) (hc : c.Measured s) (hcall : Exec (bufferCopy addr c.data) t tr n t')
      (ha : Kernel.Accepts (copyContract addr c.granted).Answers s tr s') : Copied addr s'

/-- What measured calls keep: a structure without a buffer claims no size, and one with a buffer is
laid out and claims at most what the buffer holds behind the size field. -/
structure UdtcpSend.Sized (s : UdtcpSend) : Prop where
  empty : s.buffer = none → s.bufferSize = 0
  laid : ∀ b, s.buffer = some b → s.sizeOffset = some 0 ∧ s.payloadOffset = some 4 ∧
    s.bufferSize + 4 ≤ b.cap
  small : s.bufferSize + 4 < 2 ^ 32

private theorem UdtcpSend.sized_zero : UdtcpSend.zero.Sized where
  empty _ := rfl
  laid _ hb := by cases hb
  small := by decide

private theorem UdtcpSend.sized_grown {block : Block} {n : Nat} (s : UdtcpSend)
    (hn : n + 4 < 2 ^ 32)
    (hcap : n + 4 ≤ block.cap) : (s.grown block n).Sized where
  empty hb := by cases hb
  laid b hb := by
    obtain rfl := Option.some.inj hb
    exact ⟨rfl, rfl, hcap⟩
  small := hn

/-- The structure, laid out on the block, after the two copies of `data` into it. -/
def UdtcpSend.filled (s : UdtcpSend) (b : Block) (data : List UInt8) : UdtcpSend :=
  { s with
    buffer := some { b with
      mem := (b.mem.write 0 (Bytes.leBytes 4 data.length)).write 4 data }
    sizeOffset := some 0
    payloadOffset := some 4 }

/-- A message that is written keeps a structure well sized. -/
theorem UdtcpSend.Sized.filled {s : UdtcpSend} (h : s.Sized) {b : Block} (hb : s.buffer = some b)
    (data : List UInt8) : (s.filled b data).Sized where
  empty hnone := by cases hnone
  laid b' hb' := by
    obtain rfl := Option.some.inj hb'
    exact ⟨rfl, rfl, (h.laid b hb).2.2⟩
  small := h.small

/-- Offsets 0 and 4 are in bounds exactly if the frame is. -/
theorem UdtcpSend.copiedWithin_filled_iff {s : UdtcpSend} {b : Block} {data : List UInt8} :
    (s.filled b data).CopiedWithin data ↔ data.length + 4 ≤ b.cap := by
  constructor
  · rintro ⟨b', so, po, hb', -, hpo', -, hcap, -⟩
    obtain rfl := Option.some.inj hb'
    obtain rfl := Option.some.inj hpo'
    rw [Nat.add_comm]
    exact hcap
  · intro hcap
    refine ⟨_, 0, 4, rfl, rfl, rfl, by dsimp only; omega, by dsimp only; omega, ?_, ?_⟩
    · dsimp only
      rw [Memory.read_write_below _ _ (Nat.le_refl 4)]
      have hself := Memory.read_write_self b.mem 0 (Bytes.leBytes 4 data.length)
      rw [Bytes.length_leBytes] at hself
      exact hself
    · exact Memory.read_write_self _ _ _

section

variable {τ α : Type} {t : Thread τ} {s : UdtcpSend} {addr : UInt64} {granted : Bool}
  {Q : α → Thread τ → UdtcpSend → Prop}

/-! ### The calls of `buffer_copy`, exactly -/

private theorem safe_copy_load {f : UdtcpSend → Proc τ α} :
    Safe (copyContract addr granted) (request (.loadSend addr) >>= f) t s Q ↔
      Safe (copyContract addr granted) (f s) t s Q := by
  constructor
  · exact fun h ↦ h.2 s s (sendKernel_load.mpr ⟨rfl, rfl⟩)
  · refine fun h ↦ safe_request_bind trivial fun v s' hv ↦ ?_
    obtain ⟨rfl, rfl⟩ := sendKernel_load.mp hv
    exact h

private theorem safe_copy_store {v : UdtcpSend} {f : Unit → Proc τ α} :
    Safe (copyContract addr granted) (issue (.storeSend addr v) >>= f) t s Q ↔
      Safe (copyContract addr granted) (f ()) t v Q := by
  constructor
  · exact fun h ↦ h.2 () v ((sendKernel_store (u := ())).mpr rfl)
  · refine fun h ↦ safe_issue_bind trivial fun u s' hv ↦ ?_
    obtain rfl := (sendKernel_store (u := u)).mp hv
    exact h

private theorem safe_copy_free {ptr : Nat} {f : Unit → Proc τ α} :
    Safe (copyContract addr granted) (issue (.freeBuffer ptr) >>= f) t s Q ↔
      Safe (copyContract addr granted) (f ()) t s Q := by
  constructor
  · exact fun h ↦ h.2 () s rfl
  · refine fun h ↦ safe_issue_bind trivial fun u s' hv ↦ ?_
    obtain rfl : s' = s := hv
    exact h

private theorem safe_copy_newBuffer {size : Nat}
    {f : Except Errno {b : Block // b.cap = size} → Proc τ α} :
    Safe (copyContract addr granted) (syscall (.newBuffer size) >>= f) t s Q ↔
      ∀ r : Except Errno {b : Block // b.cap = size}, r.isOk = granted →
        Safe (copyContract addr granted) (f r) (t.note r) s Q := by
  constructor
  · exact fun h r hr ↦ h.2 r s ⟨hr, rfl⟩
  · refine fun h ↦ safe_syscall_bind trivial fun r s' hr ↦ ?_
    obtain ⟨hr, rfl⟩ := hr
    exact h r hr

private theorem safe_growSend_bind_iff {n : Nat} {f : Bool → Proc τ α} :
    Safe (copyContract addr granted) (growSend addr n >>= f) t s Q ↔
      if s.bufferSize < n then
        ∀ r : Except Errno {b : Block // b.cap = (n + 4) % 2 ^ 32}, r.isOk = granted →
          match r with
          | .ok block => Safe (copyContract addr granted) (f true) t (s.grown block.val n) Q
          | .error e => Safe (copyContract addr granted) (f false) { t with errno := e } s Q
      else Safe (copyContract addr granted) (f true) t s Q := by
  rw [growSend, bind_assoc, safe_copy_load]
  by_cases hlarge : s.bufferSize < n
  · rw [if_pos hlarge, if_pos hlarge, bind_assoc]
    refine safe_copy_newBuffer.trans (forall₂_congr fun r _ ↦ ?_)
    cases r with
    | error e => rfl
    | ok block =>
      let store : Proc τ α := issue (.storeSend addr (s.grown block.val n)) >>= fun _ ↦ f true
      have hstore : Safe (copyContract addr granted) store t s Q ↔
          Safe (copyContract addr granted) (f true) t (s.grown block.val n) Q := safe_copy_store
      cases hold : s.buffer with
      | none => exact hstore
      | some old => exact (safe_copy_free (f := fun _ ↦ store)).trans hstore
  · rw [if_neg hlarge, if_neg hlarge]
    rfl

private theorem safe_bufferCopy_kept {data : Payload} {Q : Int → Thread τ → UdtcpSend → Prop}
    (hs : s.Sized) (hfits : data.val.length ≤ s.bufferSize) :
    Safe (copyContract addr granted) (bufferCopy addr data) t s Q ↔
      ∃ b, s.buffer = some b ∧ Q 0 t (s.filled b data.val) := by
  refine safe_growSend_bind_iff.trans ?_
  rw [if_neg (Nat.not_lt.mpr hfits), if_pos rfl, safe_copy_load]
  cases hb : s.buffer with
  | none =>
    refine iff_of_false (fun h ↦ h.1) ?_
    rintro ⟨b, hb, -⟩
    cases hb
  | some b =>
    obtain ⟨hso, hpo, -⟩ := hs.laid b hb
    rw [hso, hpo]
    refine safe_copy_store.trans ⟨fun h ↦ ⟨b, rfl, h⟩, ?_⟩
    rintro ⟨b', hb', h⟩
    obtain rfl := Option.some.inj hb'
    exact h

private theorem safe_bufferCopy_grown {data : Payload} {Q : Int → Thread τ → UdtcpSend → Prop}
    (hlarge : s.bufferSize < data.val.length) :
    Safe (copyContract addr granted) (bufferCopy addr data) t s Q ↔
      (granted = true → ∀ block : Block, block.cap = (data.val.length + 4) % 2 ^ 32 →
        Q 0 t ((s.grown block data.val.length).filled block data.val)) ∧
      (granted = false → ∀ e, Q (-1) { t with errno := e } s) := by
  refine safe_growSend_bind_iff.trans ?_
  rw [if_pos hlarge]
  constructor
  · intro h
    refine ⟨fun hgranted block hcap ↦ ?_, fun hrefused e ↦ ?_⟩
    · have hcopy := h (.ok ⟨block, hcap⟩) hgranted.symm
      dsimp only at hcopy
      rw [if_pos rfl, safe_copy_load] at hcopy
      exact safe_copy_store.mp hcopy
    · exact h (.error e) hrefused.symm
  · rintro ⟨hgranted, hrefused⟩ (e | block) hr
    · exact hrefused hr.symm e
    · dsimp only
      rw [if_pos rfl, safe_copy_load]
      exact safe_copy_store.mpr (hgranted hr.symm block.val block.property)

end

/-- **One call** from a structure in order. -/
theorem Copying.inBounds_iff {c : Copying} {addr : UInt64} {s : UdtcpSend} (hs : s.Sized) :
    c.InBounds addr s ↔ c.Measured s := by
  have hframe : s.bufferSize + 4 < 2 ^ 32 := hs.small
  by_cases hlarge : s.bufferSize < c.data.val.length
  · have hpos : 0 < c.data.val.length := Nat.lt_of_le_of_lt (Nat.zero_le _) hlarge
    constructor
    · refine fun h ↦ ⟨fun _ ↦ hpos, fun hgranted ↦ ?_⟩
      by_contra hwide
      let block : Block := ⟨0, (c.data.val.length + 4) % 2 ^ 32, fun _ ↦ 0⟩
      rcases ((safe_bufferCopy_grown hlarge).mp (h (⟨.other 0, ()⟩ : Thread Unit))).1 hgranted block
        rfl with ⟨-, hcopied⟩ | ⟨hn, -⟩
      · have hcap := UdtcpSend.copiedWithin_filled_iff.mp hcopied
        have hlen := c.data.property
        simp only [block] at hcap
        omega
      · cases hn
    · intro h τ t
      refine (safe_bufferCopy_grown hlarge).mpr ⟨fun hgranted block hcap ↦ .inl ⟨rfl, ?_⟩,
        fun _ e ↦ .inr ⟨rfl, rfl⟩⟩
      have hlen := h.2 hgranted
      rw [Nat.mod_eq_of_lt hlen] at hcap
      exact UdtcpSend.copiedWithin_filled_iff.mpr (Nat.le_of_eq hcap.symm)
  · have hfits : c.data.val.length ≤ s.bufferSize := Nat.le_of_not_lt hlarge
    constructor
    · intro h
      obtain ⟨b, hb, -⟩ := (safe_bufferCopy_kept hs hfits).mp (h (⟨.other 0, ()⟩ : Thread Unit))
      refine ⟨fun hnone ↦ ?_, fun _ ↦ by omega⟩
      cases hb.symm.trans hnone
    · intro h τ t
      rw [safe_bufferCopy_kept hs hfits]
      cases hb : s.buffer with
      | none =>
        have hpos := h.1 hb
        rw [hs.empty hb] at hfits
        omega
      | some b =>
        obtain ⟨-, -, hcap⟩ := hs.laid b hb
        refine ⟨b, rfl, .inl ⟨rfl, UdtcpSend.copiedWithin_filled_iff.mpr ?_⟩⟩
        omega

/-- A measured call leaves the structure in order. -/
theorem Copying.Measured.safe_sized {c : Copying} {addr : UInt64} {s : UdtcpSend} {τ : Type}
    {t : Thread τ} (h : c.Measured s) (hs : s.Sized) :
    Safe (copyContract addr c.granted) (bufferCopy addr c.data) t s fun _ _ s' ↦ s'.Sized := by
  by_cases hlarge : s.bufferSize < c.data.val.length
  · refine (safe_bufferCopy_grown hlarge).mpr ⟨fun hgranted block hcap ↦ ?_, fun _ _ ↦ hs⟩
    have hlen := h.2 hgranted
    rw [Nat.mod_eq_of_lt hlen] at hcap
    exact (s.sized_grown hlen (Nat.le_of_eq hcap.symm)).filled rfl _
  · have hfits : c.data.val.length ≤ s.bufferSize := Nat.le_of_not_lt hlarge
    rw [safe_bufferCopy_kept hs hfits]
    cases hb : s.buffer with
    | none =>
      have hpos := h.1 hb
      rw [hs.empty hb] at hfits
      omega
    | some b => exact ⟨b, rfl, hs.filled hb _⟩

private theorem Copied.sized {addr : UInt64} {s : UdtcpSend} (h : Copied addr s) : s.Sized := by
  induction h with
  | zero => exact UdtcpSend.sized_zero
  | call _ hc hcall ha ih => exact (hc.safe_sized ih).exec hcall ha

/-- **The bounds of the send buffer.** After any sequence of measured calls on a structure that was
zeroed, the next call stays in bounds if and only if it is a measured one too. -/
theorem send_buffer_bounds_iff {addr : UInt64} {s : UdtcpSend} (h : Copied addr s) (c : Copying) :
    c.InBounds addr s ↔ c.Measured s :=
  Copying.inBounds_iff h.sized

private theorem exec_bufferCopy_first (addr : UInt64) (data : Payload) (block : Block)
    (hpos : 0 < data.val.length) (hcap : block.cap = (data.val.length + 4) % 2 ^ 32)
    (t : Thread Unit) : ∃ tr, Exec (bufferCopy addr data) t tr 0 t ∧
      Kernel.Accepts (copyContract addr true).Answers .zero tr
        ((UdtcpSend.zero.grown block data.val.length).filled block data.val) := by
  let grown := UdtcpSend.zero.grown block data.val.length
  have hgrow : Exec (growSend addr data.val.length) t [⟨.loadSend addr, UdtcpSend.zero⟩,
      ⟨.sys (.newBuffer _), .ok ⟨block, hcap⟩⟩, ⟨.storeSend addr grown, ()⟩] true t := by
    refine exec_request_bind.mpr ⟨_, _, rfl, ?_⟩
    have hsmaller : UdtcpSend.zero.bufferSize < data.val.length := hpos
    rw [exec_ite, if_pos hsmaller]
    exact ⟨_, _, rfl, _, _, rfl, rfl, rfl⟩
  have hcopy : Exec (bufferCopy addr data) t _ 0 t :=
    exec_bind.mpr ⟨_, true, t, [⟨.loadSend addr, grown⟩,
      ⟨.storeSend addr (grown.filled block data.val), ()⟩], rfl, hgrow, _, _, rfl, _, _, rfl, rfl,
      rfl⟩
  have hload (s : UdtcpSend) : sendKernel addr s (.loadSend addr) s s :=
    sendKernel_load.mpr ⟨rfl, rfl⟩
  have hstore (s s' : UdtcpSend) : sendKernel addr s (.storeSend addr s') () s' :=
    (sendKernel_store (u := ())).mpr rfl
  exact ⟨_, hcopy, _, hload _, _, ⟨rfl, rfl⟩, _, hstore _ _, _, hload _, _, hstore _ _, rfl⟩

/-- A call with an empty message. -/
def noBytes (granted : Bool) : Copying := ⟨⟨[], by decide⟩, granted⟩

/-- An empty message stays in bounds behind another one. -/
theorem send_buffer_bounds_second : ∃ s, Copied 64 s ∧ s.buffer.isSome ∧
    (noBytes true).InBounds 64 s := by
  let oneByte : Copying := ⟨⟨[7], by decide⟩, true⟩
  let block : Block := ⟨4096, 5, fun _ ↦ 0⟩
  have hmeasured : oneByte.Measured .zero := ⟨fun _ ↦ by decide, fun _ ↦ by decide⟩
  obtain ⟨tr, hcall, ha⟩ :=
    exec_bufferCopy_first 64 oneByte.data block (by decide) rfl ⟨.other 0, ()⟩
  exact ⟨_, .call .zero hmeasured hcall ha, rfl,
    (send_buffer_bounds_iff (.call .zero hmeasured hcall ha) _).mpr ⟨nofun, fun _ ↦ by decide⟩⟩

/-- **The defects.** A message whose frame takes 2^32 bytes is copied into a buffer of none, with
result `0`; and the first call copies an empty message through a null pointer. -/
theorem send_buffer_overrun :
    (∃ (data : Payload) (tr : Trace posix) (t t' : Thread Unit) (s : UdtcpSend),
      data.val.length + 4 = 2 ^ 32 ∧ Exec (bufferCopy 64 data) t tr 0 t' ∧
      Kernel.Accepts (copyContract 64 true).Answers .zero tr s ∧
      (∃ b, s.buffer = some b ∧ b.cap = 0) ∧ ¬ s.CopiedWithin data.val) ∧
    ∀ granted, ¬ (noBytes granted).InBounds 64 .zero := by
  constructor
  · have hlen : (List.replicate (2 ^ 32 - 4) (7 : UInt8)).length = 2 ^ 32 - 4 :=
      List.length_replicate
    generalize List.replicate (2 ^ 32 - 4) (7 : UInt8) = bytes at hlen
    have hframe : bytes.length + 4 = 2 ^ 32 := by omega
    let block : Block := ⟨4096, 0, fun _ ↦ 0⟩
    have hcap : block.cap = (bytes.length + 4) % 2 ^ 32 := by rw [hframe, Nat.mod_self]
    obtain ⟨tr, hcall, ha⟩ := exec_bufferCopy_first 64 ⟨bytes, by omega⟩ block
      (by dsimp only; omega) hcap ⟨.other 0, ()⟩
    refine ⟨_, tr, _, _, _, hframe, hcall, ha, ⟨_, rfl, rfl⟩, fun hcopied ↦ ?_⟩
    have hle : bytes.length + 4 ≤ 0 := UdtcpSend.copiedWithin_filled_iff.mp hcopied
    omega
  · intro granted h
    have hpos := ((Copying.inBounds_iff UdtcpSend.sized_zero).mp h).1 rfl
    exact absurd hpos (Nat.lt_irrefl 0)

end Udtcp
