import Udtcp.Interaction.Returns
import Udtcp.Receive.Agreement

/-!
# The reassembly of a message

The loop of `server_poll.c:257–288` and `client_poll.c:92–131` puts a message together from what the
socket gives. Here it is followed byte by byte: which ranges of the buffer are asked for, how often,
and what is handed over in the end.
-/

namespace Udtcp

open Interaction Routine

/-! ### The loop in 32 bits -/

/-- The loop of `server_poll.c:257–288` with `buffer_size` and `data_size` kept in the `uint32_t`
they are declared as. -/
def reassembleUInt32 (fd : Fd) (dataSize : UInt32) : Nat → UInt32 →
    Proc ReceiveBuffer (Option Int)
  | 0, _ => return none
  | rounds + 1, bufferSize => do
    if bufferSize = dataSize then
      return none
    else if (← pollIn fd) ≤ 0 then
      return some (-1)
    else
      let ret ← recvBuffer fd bufferSize.toNat (dataSize - bufferSize).toNat
      if ret < 0 then
        return some (-1)
      else if ret = 0 then
        return some 0
      else
        reassembleUInt32 fd dataSize rounds (bufferSize + UInt32.ofNat ret.toNat)

/-- The sum does not wrap around: no reception brings more than is missing. -/
theorem reassembleUInt32_eq (fd : Fd) (dataSize : UInt32) (rounds : Nat) {bufferSize : UInt32}
    (h : bufferSize ≤ dataSize) : reassembleUInt32 fd dataSize rounds bufferSize =
      reassemble fd dataSize.toNat rounds bufferSize.toNat := by
  induction rounds generalizing bufferSize with
  | zero => rfl
  | succ rounds ih =>
    have hle := UInt32.le_iff_toNat_le.mp h
    unfold reassembleUInt32 reassemble
    refine if_congr UInt32.toNat_inj.symm rfl (bind_congr fun n ↦ if_congr Iff.rfl rfl ?_)
    rw [UInt32.toNat_sub_of_le _ _ h]
    unfold recvBuffer
    simp only [bind_assoc]
    refine bind_congr fun b ↦ bind_congr fun reply ↦ ?_
    cases reply with
    | error e => rfl
    | ok bs =>
      have hbs := bs.property
      have hlt := dataSize.toNat_lt
      have hsum : (bufferSize + UInt32.ofNat (bs.val.length : Int).toNat).toNat =
          bufferSize.toNat + (bs.val.length : Int).toNat := by
        rw [UInt32.toNat_add, UInt32.toNat_ofNat', Int.toNat_natCast]
        omega
      simp only [bind_assoc, pure_bind]
      refine bind_congr fun _ ↦ if_congr Iff.rfl rfl (if_congr Iff.rfl rfl ?_)
      rw [ih (UInt32.le_iff_toNat_le.mpr (by rw [hsum, Int.toNat_natCast]; omega)), hsum]

/-! ### What is asked for and what comes -/

/-- The range of the buffer a reception asks for: its first offset and its length. -/
def rangeOf : Call → Option (Nat × Nat)
  | .sys (.recv _ (.buffer _ _ offset) len) => some (offset, len)
  | _ => none

/-- The bytes a reception puts into the buffer. -/
def chunkOf : (c : Call) → c.Reply → List UInt8
  | .sys (.recv _ (.buffer _ _ _) _), .ok bs => bs.val
  | _, _ => []

/-- A reception into the buffer that brings nothing, or a wait without input. -/
def Breaks : (c : Call) → c.Reply → Prop
  | .sys (.recv _ (.buffer _ _ _) _), .ok bs => bs.val = []
  | .sys (.recv _ (.buffer _ _ _) _), .error _ => True
  | .sys (.poll _ _), reply => pollCount reply ≤ 0
  | _, _ => False

/-- The values the loop variable goes through: where the receptions begin. -/
def offsets (tr : Trace posix) : List Nat := tr.filterMap fun e ↦ (rangeOf e.call).map Prod.fst

/-- The receptions that bring something. -/
def chunks (tr : Trace posix) : List (List UInt8) :=
  (tr.map fun e ↦ chunkOf e.call e.reply).filter (· ≠ [])

/-- All bytes that come, in order. -/
def payload (tr : Trace posix) : List UInt8 := tr.flatMap fun e ↦ chunkOf e.call e.reply

@[simp] private theorem payload_nil : payload [] = [] := rfl

@[simp] private theorem payload_cons (e : Event posix) (tr : Trace posix) :
    payload (e :: tr) = chunkOf e.call e.reply ++ payload tr := rfl

@[simp] private theorem payload_append (tr₁ tr₂ : Trace posix) :
    payload (tr₁ ++ tr₂) = payload tr₁ ++ payload tr₂ := List.flatMap_append

private theorem payload_eq_nil {tr : Trace posix} (h : ∀ e ∈ tr, chunkOf e.call e.reply = []) :
    payload tr = [] := List.flatMap_eq_nil_iff.mpr h

/-- Every reception that brings something brings a byte. -/
theorem length_chunks_le (tr : Trace posix) : (chunks tr).length ≤ (payload tr).length := by
  induction tr with
  | nil => exact Nat.le_refl 0
  | cons e tr ih =>
    have hcons : chunks (e :: tr) =
        if chunkOf e.call e.reply ≠ [] then chunkOf e.call e.reply :: chunks tr else chunks tr := by
      simp [chunks, List.filter_cons]
    rw [hcons, payload_cons, List.length_append]
    split
    · next hne =>
      have hpos := List.length_pos_iff.mpr hne
      rw [List.length_cons]
      omega
    · omega

/-- A reception that asks for a part of the buffer brings some of it, or breaks off. -/
theorem breaks_of_chunkOf_eq_nil {e : Event posix} (hrange : rangeOf e.call ≠ none)
    (hchunk : chunkOf e.call e.reply = []) : Breaks e.call e.reply := by
  obtain ⟨c, r⟩ := e
  cases c with
  | sys c =>
    cases c with
    | recv fd target len =>
      cases target with
      | buffer ptr cap offset =>
        cases r with
        | error e => trivial
        | ok bs => exact hchunk
      | word => exact absurd rfl hrange
      | record => exact absurd rfl hrange
    | _ => exact absurd rfl hrange
  | _ => exact absurd rfl hrange

/-- The reassembly of `n` bytes, with `o` of them there at the beginning: every reception asks for
those that are missing, and nothing follows what breaks it off. -/
def Paced (n : Nat) : Nat → Trace posix → Prop
  | _, [] => True
  | o, e :: tr => (∀ r ∈ rangeOf e.call, r.1 = o ∧ o < n ∧ o + r.2 = n) ∧
      (Breaks e.call e.reply → tr = [] ∧ o < n) ∧ Paced n (o + (chunkOf e.call e.reply).length) tr

section

variable {n o : Nat} {tr tr₁ tr₂ : Trace posix} {e : Event posix}

private theorem paced_append (hunbroken : ∀ e ∈ tr₁, ¬ Breaks e.call e.reply) :
    Paced n o (tr₁ ++ tr₂) ↔ Paced n o tr₁ ∧ Paced n (o + (payload tr₁).length) tr₂ := by
  induction tr₁ generalizing o with
  | nil => exact ⟨fun h ↦ ⟨trivial, h⟩, And.right⟩
  | cons e tr₁ ih =>
    obtain ⟨hfirst, hrest⟩ := List.forall_mem_cons.mp hunbroken
    simp only [List.cons_append, Paced, hfirst, false_implies, true_and, ih hrest, payload_cons,
      List.length_append, Nat.add_assoc, and_assoc]

/-- Calls that neither receive nor wait do not matter. -/
theorem paced_of_quiet (h : ∀ e ∈ tr, rangeOf e.call = none ∧ ¬ Breaks e.call e.reply) :
    Paced n o tr := by
  induction tr generalizing o with
  | nil => trivial
  | cons e tr ih =>
    obtain ⟨⟨hrange, hbreaks⟩, hrest⟩ := List.forall_mem_cons.mp h
    exact ⟨by rw [hrange]; nofun, fun hb ↦ absurd hb hbreaks, ih hrest⟩

/-- A reception behind `tr₁` asks for all that is missing. -/
theorem Paced.range (h : Paced n o (tr₁ ++ e :: tr₂)) {r : Nat × Nat}
    (hr : rangeOf e.call = some r) :
    r.1 = o + (payload tr₁).length ∧ r.1 < n ∧ r.1 + r.2 = n := by
  induction tr₁ generalizing o with
  | nil =>
    obtain ⟨hfst, hlt, hsum⟩ := h.1 r hr
    exact ⟨hfst, by omega, by omega⟩
  | cons e tr₁ ih =>
    obtain ⟨hfst, hlt, hsum⟩ := ih h.2.2
    rw [payload_cons, List.length_append, ← Nat.add_assoc]
    exact ⟨hfst, hlt, hsum⟩

/-- A reception that breaks off is the last, and something is missing. -/
theorem Paced.broken (h : Paced n o (tr₁ ++ e :: tr₂)) (hb : Breaks e.call e.reply) :
    tr₂ = [] ∧ o + (payload tr₁).length < n := by
  induction tr₁ generalizing o with
  | nil => exact h.2.1 hb
  | cons e tr₁ ih =>
    rw [payload_cons, List.length_append, ← Nat.add_assoc]
    exact ih h.2.2

/-- **The loop variable grows** with every reception. -/
theorem Paced.offsets (h : Paced n o tr) :
    (∀ k ∈ offsets tr, o ≤ k ∧ k < n) ∧ (offsets tr).Pairwise (· < ·) := by
  induction tr generalizing o with
  | nil => exact ⟨nofun, .nil⟩
  | cons e tr ih =>
    obtain ⟨hrange, hbreaks, hrest⟩ := h
    obtain ⟨hall, hpairwise⟩ := ih hrest
    have hcons : Udtcp.offsets (e :: tr) =
        ((rangeOf e.call).map Prod.fst).toList ++ Udtcp.offsets tr := by
      rw [Udtcp.offsets, List.filterMap_cons]
      cases rangeOf e.call <;> rfl
    rw [hcons]
    cases hr : rangeOf e.call with
    | none => exact ⟨fun k hk ↦ ⟨by have := hall k hk; omega, (hall k hk).2⟩, hpairwise⟩
    | some r =>
      obtain ⟨hfst, hlt, -⟩ := hrange r hr
      refine ⟨List.forall_mem_cons.mpr ⟨⟨by omega, by omega⟩, fun k hk ↦ ?_⟩, List.pairwise_cons.mpr
        ⟨fun k hk ↦ ?_, hpairwise⟩⟩
      · have := hall k hk
        omega
      · -- a reception with another one behind it has brought something
        have hpos : 0 < (chunkOf e.call e.reply).length := by
          refine List.length_pos_iff.mpr fun hnil ↦ ?_
          obtain ⟨rfl, -⟩ := hbreaks (breaks_of_chunkOf_eq_nil (by rw [hr]; nofun) hnil)
          cases hk
        have := hall k hk
        omega

end

/-! ### The receiver -/

/-- What reading back shows when a reception filled the buffer behind what was there. -/
theorem ReceiveBuffer.bytes_fill_append {b : ReceiveBuffer} (h : b.bufferData.isSome) (o : Nat)
    (bs : List UInt8) : (b.fill o bs).bytes 0 (o + bs.length) = b.bytes 0 o ++ bs := by
  obtain ⟨blk, hblk⟩ := Option.isSome_iff_exists.mp h
  simp only [fill, bytes, hblk, Option.map_some]
  exact Memory.read_write_append _ _ _

/-- What a part of the reassembly does: it keeps the pace, calls nobody back, and puts what comes
behind what was there. -/
structure Gathers (n o : Nat) (b b' : ReceiveBuffer) (tr : Trace posix) : Prop where
  paced : Paced n o tr
  silent : callbacksOf tr = []
  present : b'.bufferData.isSome
  bytes : b'.bytes 0 (o + (payload tr).length) = b.bytes 0 o ++ payload tr

section

variable {fd : Fd} {n o : Nat} {t t' : Thread ReceiveBuffer} {tr : Trace posix}

/-- Receptions in two parts, of which the first is not broken off. -/
theorem Gathers.trans {b b₁ b₂ : ReceiveBuffer} {tr₁ tr₂ : Trace posix} (h₁ : Gathers n o b b₁ tr₁)
    (hunbroken : ∀ e ∈ tr₁, ¬ Breaks e.call e.reply)
    (h₂ : Gathers n (o + (payload tr₁).length) b₁ b₂ tr₂) : Gathers n o b b₂ (tr₁ ++ tr₂) where
  paced := (paced_append hunbroken).mpr ⟨h₁.paced, h₂.paced⟩
  silent := by rw [callbacksOf_append, h₁.silent, h₂.silent, List.append_nil]
  present := h₂.present
  bytes := by
    rw [payload_append, List.length_append, ← Nat.add_assoc, h₂.bytes, h₁.bytes, List.append_assoc]

private theorem gathers_poll {b : ReceiveBuffer}
    (reply : Except Errno (SysCall.poll [⟨fd, POLLIN, 0⟩] (-1)).Result) (hlt : o < n)
    (hpresent : b.bufferData.isSome) :
    Gathers n o b b [⟨.sys (.poll [⟨fd, POLLIN, 0⟩] (-1)), reply⟩] ∧
      payload [⟨.sys (.poll [⟨fd, POLLIN, 0⟩] (-1)), reply⟩] = [] := by
  have hnone : payload [⟨.sys (.poll [⟨fd, POLLIN, 0⟩] (-1)), reply⟩] = [] := by
    cases reply <;> rfl
  refine ⟨⟨⟨nofun, fun _ ↦ ⟨rfl, hlt⟩, trivial⟩, rfl, hpresent, ?_⟩, hnone⟩
  rw [hnone]
  exact (List.append_nil _).symm

private theorem gathers_recvBuffer {k : Int} (h : Exec (recvBuffer fd o (n - o)) t tr k t')
    (hlt : o < n) (hpresent : t.self.bufferData.isSome) :
    Gathers n o t.self t'.self tr ∧ (payload tr).length = k.toNat ∧ k.toNat ≤ n - o ∧
      (0 < k → ∀ e ∈ tr, ¬ Breaks e.call e.reply) := by
  rcases exec_recvBuffer.mp h with ⟨e, rfl, rfl, rfl⟩ | ⟨bs, rfl, rfl, rfl⟩
  · refine ⟨⟨⟨fun r hr ↦ ?_, fun _ ↦ ⟨rfl, hlt⟩, trivial⟩, rfl, hpresent, ?_⟩, rfl, Nat.zero_le _,
      nofun⟩
    · obtain rfl := Option.some.inj hr
      exact ⟨rfl, hlt, Nat.add_sub_of_le (Nat.le_of_lt hlt)⟩
    · exact (List.append_nil _).symm
  · have hpayload : payload [⟨.sys (.recv fd (t.self.target o) (n - o)), .ok bs⟩] = bs.val :=
      List.append_nil _
    have hlen := bs.property
    refine ⟨⟨⟨fun r hr ↦ ?_, fun _ ↦ ⟨rfl, hlt⟩, trivial⟩, rfl, ?_, ?_⟩, ?_, ?_, fun hk e he ↦ ?_⟩
    · obtain rfl := Option.some.inj hr
      exact ⟨rfl, hlt, Nat.add_sub_of_le (Nat.le_of_lt hlt)⟩
    · rw [ReceiveBuffer.fill, Option.isSome_map]
      exact hpresent
    · rw [hpayload]
      exact ReceiveBuffer.bytes_fill_append hpresent o bs.val
    · rw [hpayload, Int.toNat_natCast]
    · rw [Int.toNat_natCast]
      exact hlen
    · obtain rfl := List.mem_singleton.mp he
      have hpos : 0 < bs.val.length := by omega
      exact List.ne_nil_of_length_pos hpos

private theorem gathers_reassemble {rounds : Nat} {r : Option Int}
    (h : Exec (reassemble fd n rounds o) t tr r t') (hle : o ≤ n) (hrounds : n ≤ o + rounds)
    (hpresent : t.self.bufferData.isSome) :
    Gathers n o t.self t'.self tr ∧
      (r = none → o + (payload tr).length = n ∧ ∀ e ∈ tr, ¬ Breaks e.call e.reply) ∧
      (r ≠ none → o + (payload tr).length < n) := by
  induction rounds generalizing t tr o with
  | zero =>
    obtain ⟨rfl, rfl, rfl⟩ := exec_pure.mp h
    exact ⟨⟨trivial, rfl, hpresent, (List.append_nil _).symm⟩, fun _ ↦ ⟨by simp; omega, nofun⟩,
      fun hne ↦ absurd rfl hne⟩
  | succ rounds ih =>
    by_cases hdone : o = n
    · subst hdone
      obtain ⟨rfl, rfl, rfl⟩ := exec_reassemble_done.mp h
      exact ⟨⟨trivial, rfl, hpresent, (List.append_nil _).symm⟩, fun _ ↦ ⟨by simp, nofun⟩,
        fun hne ↦ absurd rfl hne⟩
    obtain ⟨reply, rest, rfl, hcases⟩ := (exec_reassemble hdone).mp h
    obtain ⟨hwait, hnone⟩ := gathers_poll reply (show o < n by omega) hpresent
    rw [← List.singleton_append, payload_append, hnone, List.nil_append]
    rcases hcases with ⟨hidle, rfl, rfl, rfl⟩ | ⟨hready, tr₁, k, t₁, tr₂, rfl, hrecv, hend⟩
    · rw [List.append_nil, Thread.note_self]
      exact ⟨hwait, nofun, fun _ ↦ by rw [payload_nil, List.length_nil]; omega⟩
    have hunbroken : ∀ e ∈ [(⟨.sys (.poll [⟨fd, POLLIN, 0⟩] (-1)), reply⟩ : Event posix)],
        ¬ Breaks e.call e.reply := by
      intro e he
      obtain rfl := List.mem_singleton.mp he
      exact Int.not_le.mpr hready
    rw [← t.note_self reply] at hpresent
    obtain ⟨hgathers, hlen, hmost, hunbroken₁⟩ := gathers_recvBuffer hrecv (by omega) hpresent
    rw [t.note_self] at hgathers
    have hsofar : Gathers n o t.self t₁.self
        ([⟨.sys (.poll [⟨fd, POLLIN, 0⟩] (-1)), reply⟩] ++ tr₁) :=
      hwait.trans hunbroken (by rw [hnone]; exact hgathers)
    rcases hend with ⟨hneg, rfl, rfl, rfl⟩ | ⟨rfl, rfl, rfl, rfl⟩ | ⟨hpos, hloop⟩
    · rw [List.append_nil]
      exact ⟨hsofar, nofun, fun _ ↦ by omega⟩
    · rw [List.append_nil]
      exact ⟨hsofar, nofun, fun _ ↦ by omega⟩
    · rw [← hlen] at hloop
      obtain ⟨hrest, hdone, hbroken⟩ := ih hloop (by omega) (by omega) hgathers.present
      have hall : ∀ e ∈ [⟨.sys (.poll [⟨fd, POLLIN, 0⟩] (-1)), reply⟩] ++ tr₁,
          ¬ Breaks e.call e.reply :=
        List.forall_mem_append.mpr ⟨hunbroken, hunbroken₁ hpos⟩
      rw [payload_append, List.length_append, ← Nat.add_assoc, ← List.append_assoc]
      refine ⟨hsofar.trans hall ?_, fun hr ↦ ⟨(hdone hr).1, ?_⟩, hbroken⟩
      · rw [payload_append, hnone]
        exact hrest
      · exact List.forall_mem_append.mpr ⟨hall, (hdone hr).2⟩
end

/-! ### Messages -/

/-- A message of `n` bytes is put together exactly: every reception asks for the bytes that are
missing and for no others, the loop variable grows from one to the next and stays below `n`, at most
`n` of them bring something, nothing follows one that brings nothing, and the message is handed over
once if all bytes came, and not at all otherwise. -/
structure Reassembled (deliver : Option (List UInt8 → Callback)) (n : Nat) (tr : Trace posix) :
    Prop where
  asked : ∀ pre e post, tr = pre ++ e :: post → ∀ offset len,
    rangeOf e.call = some (offset, len) →
      offset = (payload pre).length ∧ offset < n ∧ offset + len = n
  broken : ∀ pre e post, tr = pre ++ e :: post → Breaks e.call e.reply →
    post = [] ∧ (payload tr).length < n
  increasing : (offsets tr).Pairwise (· < ·)
  reads : (chunks tr).length ≤ n
  bounded : (payload tr).length ≤ n
  delivered : callbacksOf tr =
    if (payload tr).length = n then (deliver.map fun f ↦ f (payload tr)).toList else []

/-- What breaks off brings nothing. -/
theorem chunkOf_eq_nil_of_breaks {e : Event posix} (h : Breaks e.call e.reply) :
    chunkOf e.call e.reply = [] := by
  obtain ⟨c, r⟩ := e
  cases c with
  | sys c =>
    cases c with
    | recv fd target len =>
      cases target with
      | buffer ptr cap offset =>
        cases r with
        | error e => rfl
        | ok bs => exact h
      | word => exact h.elim
      | record => exact h.elim
    | poll fds timeout => rfl
    | _ => exact h.elim
  | _ => exact h.elim

section

variable {fd : Fd} {n : Nat} {t t' : Thread ReceiveBuffer} {tr : Trace posix} {k : Int}
  {deliver : Option (List UInt8 → Callback)} {success : Nat → Int}

private theorem Paced.reassembled (h : Paced n 0 tr) (hbounded : (payload tr).length ≤ n)
    (hdelivered : callbacksOf tr =
      if (payload tr).length = n then (deliver.map fun f ↦ f (payload tr)).toList else []) :
    Reassembled deliver n tr where
  asked pre e post htr offset len hrange := by
    subst htr
    obtain ⟨hfst, hrest⟩ := h.range hrange
    exact ⟨hfst.trans (Nat.zero_add _), hrest⟩
  broken pre e post htr hb := by
    subst htr
    obtain ⟨rfl, hlt⟩ := h.broken hb
    rw [payload_append, payload_cons, chunkOf_eq_nil_of_breaks hb]
    simpa using hlt
  increasing := h.offsets.2
  reads := Nat.le_trans (length_chunks_le tr) hbounded
  bounded := hbounded
  delivered := hdelivered

private theorem quiet_delivery {data : List UInt8} (h : delivery deliver data tr) :
    (∀ e ∈ tr, rangeOf e.call = none ∧ ¬ Breaks e.call e.reply) ∧ payload tr = [] := by
  rw [delivery_iff] at h
  rw [h]
  cases deliver with
  | none => exact ⟨nofun, rfl⟩
  | some f =>
    refine ⟨fun e he ↦ ?_, rfl⟩
    obtain rfl := List.mem_singleton.mp he
    exact ⟨rfl, id⟩

private theorem paced_receivePayload (h : Exec (receivePayload fd deliver success n) t tr k t')
    (hpos : 0 < n) (hpresent : t.self.bufferData.isSome) :
    Paced n 0 tr ∧ (payload tr).length ≤ n ∧ callbacksOf tr =
      if (payload tr).length = n then (deliver.map fun f ↦ f (payload tr)).toList else [] := by
  obtain ⟨tr₁, k₁, t₁, rest, rfl, hrecv, hcases⟩ := exec_receivePayload h
  obtain ⟨hfirst, hlen, hmost, hunbroken⟩ := gathers_recvBuffer hrecv hpos hpresent
  rcases hcases with ⟨hnone, rfl, -, -⟩ | ⟨hsome, tr₂, r, t₂, tr₃, rfl, hloop, rfl, hend⟩
  · rw [List.append_nil, if_neg (by omega)]
    exact ⟨hfirst.paced, by omega, hfirst.silent⟩
  rw [← hlen] at hloop
  obtain ⟨hrest, hdone, hbroken⟩ := gathers_reassemble hloop (by omega) (by omega) hfirst.present
  have hall : Gathers n 0 t.self t'.self (tr₁ ++ tr₂) :=
    hfirst.trans (hunbroken hsome) (by rw [Nat.zero_add]; exact hrest)
  rcases hend with ⟨hr, rfl⟩ | ⟨rfl, -, hdel⟩
  · have hshort := hbroken (by rw [hr]; nofun)
    rw [List.append_nil, payload_append, List.length_append, if_neg (by omega)]
    exact ⟨hall.paced, by omega, hall.silent⟩
  · obtain ⟨hcomplete, hunbroken₂⟩ := hdone rfl
    obtain ⟨hquiet, hnothing⟩ := quiet_delivery hdel
    have hlength : (payload (tr₁ ++ tr₂)).length = n := by
      rw [payload_append, List.length_append]
      exact hcomplete
    have hdata : t'.self.bytes 0 n = payload (tr₁ ++ tr₂) := by
      have hbytes := hall.bytes
      rw [Nat.zero_add, hlength] at hbytes
      rw [hbytes]
      unfold ReceiveBuffer.bytes
      cases t.self.bufferData <;> rfl
    rw [hdata] at hdel
    rw [← List.append_assoc, payload_append, hnothing, List.append_nil, if_pos hlength,
      callbacksOf_append, hall.silent, List.nil_append]
    refine ⟨(paced_append ?_).mpr ⟨hall.paced, paced_of_quiet hquiet⟩, by omega,
      (callbacksOf_delivery hdel).1⟩
    exact List.forall_mem_append.mpr ⟨hunbroken hsome, hunbroken₂⟩

private theorem quiet_growBuffer {need : Nat} {ok : Bool} (h : Exec (growBuffer need) t tr ok t') :
    (∀ e ∈ tr, rangeOf e.call = none ∧ ¬ Breaks e.call e.reply ∧ chunkOf e.call e.reply = [] ∧
      callbackOf e.call = none) ∧
    (ok = true → 0 < need → t.self.bufferSize < need ∨ need ≤ t.self.allocated →
      t'.self.bufferData.isSome) := by
  rcases exec_growBuffer.mp h with ⟨hle, rfl, -, rfl⟩ | ⟨-, e, rfl, rfl, -⟩ |
    ⟨-, block, rfl, -, rfl⟩
  · refine ⟨nofun, fun _ hpos hroom ↦ ?_⟩
    obtain hsmall | hroom := hroom
    · omega
    · unfold ReceiveBuffer.allocated at hroom
      cases hdata : t'.self.bufferData with
      | none =>
        rw [hdata, Option.map_none, Option.getD_none] at hroom
        omega
      | some block => rfl
  · refine ⟨fun e he ↦ ?_, nofun⟩
    obtain rfl := List.mem_singleton.mp he
    exact ⟨rfl, id, rfl, rfl⟩
  · refine ⟨List.forall_mem_cons.mpr ⟨⟨rfl, id, rfl, rfl⟩, fun e he ↦ ?_⟩, fun _ _ _ ↦ rfl⟩
    obtain ⟨ptr, r, rfl⟩ := ReceiveBuffer.mem_release he
    exact ⟨rfl, id, rfl, rfl⟩

/-- **The receiver** puts a message together exactly. -/
theorem receiveTcpWith_reassembled (h : Exec (receiveTcpWith fd deliver success) t tr k t')
    (hsize : announced tr = some n) (hpos : 0 < n)
    (hroom : t.self.bufferSize < n ∨ n ≤ t.self.allocated) : Reassembled deliver n tr := by
  obtain ⟨size, rest, rfl, hcases⟩ := exec_receiveTcpWith h
  have hhead : rangeOf (.sys (.recv fd .word 4)) = none ∧
      ¬ Breaks (.sys (.recv fd .word 4)) size ∧ chunkOf (.sys (.recv fd .word 4)) size = [] := by
    cases size <;> exact ⟨rfl, id, rfl⟩
  have hannounced {bs : {bs : List UInt8 // bs.length ≤ 4}} (hbs : size = .ok bs)
      (h₄ : bs.val.length = 4) : Bytes.leNat bs.val = n := by
    subst hbs
    simpa [announced, announcedOf, h₄] using hsize
  have hnothing {tr₁ : Trace posix} (h : ∀ e ∈ tr₁, rangeOf e.call = none ∧
      ¬ Breaks e.call e.reply ∧ chunkOf e.call e.reply = [] ∧ callbackOf e.call = none) :
      Paced n 0 (⟨.sys (.recv fd .word 4), size⟩ :: tr₁) ∧
      payload (⟨.sys (.recv fd .word 4), size⟩ :: tr₁) = [] ∧
      callbacksOf (⟨.sys (.recv fd .word 4), size⟩ :: tr₁) = [] ∧
      ∀ e ∈ (⟨.sys (.recv fd .word 4), size⟩ :: tr₁ : Trace posix), ¬ Breaks e.call e.reply := by
    refine ⟨paced_of_quiet (List.forall_mem_cons.mpr ⟨⟨hhead.1, hhead.2.1⟩,
      fun e he ↦ ⟨(h e he).1, (h e he).2.1⟩⟩), payload_eq_nil (List.forall_mem_cons.mpr
      ⟨hhead.2.2, fun e he ↦ (h e he).2.2.1⟩), callbacksOf_eq_nil (List.forall_mem_cons.mpr
      ⟨rfl, fun e he ↦ (h e he).2.2.2⟩), List.forall_mem_cons.mpr ⟨hhead.2.1,
      fun e he ↦ (h e he).2.1⟩⟩
  rcases hcases with ⟨e, rfl, rfl, -⟩ | ⟨bs, rfl, hne, rfl, -⟩ | ⟨bs, hbs, h₄, hgrow, -⟩ |
    ⟨bs, tr₁, t₁, tr₂, hbs, h₄, rfl, hgrow, hreceive⟩
  · cases hsize
  · simp [announced, announcedOf, hne] at hsize
  · rw [hannounced hbs h₄] at hgrow
    obtain ⟨hpaced, hpayload, hsilent, -⟩ := hnothing (quiet_growBuffer hgrow).1
    refine hpaced.reassembled (by rw [hpayload]; exact Nat.zero_le n) ?_
    rw [hsilent, hpayload, if_neg (by rw [List.length_nil]; omega)]
  · rw [hannounced hbs h₄] at hgrow hreceive
    obtain ⟨hquiet, hpresent⟩ := quiet_growBuffer hgrow
    obtain ⟨hpaced, hpayload, hsilent, hunbroken⟩ := hnothing hquiet
    obtain ⟨hpaced₂, hbounded, hdelivered⟩ :=
      paced_receivePayload hreceive hpos (hpresent rfl hpos hroom)
    rw [← List.cons_append]
    refine Paced.reassembled ((paced_append hunbroken).mpr ⟨hpaced, ?_⟩) ?_ ?_
    · rw [hpayload]
      exact hpaced₂
    · rw [payload_append, hpayload]
      exact hbounded
    · rw [payload_append, hpayload, callbacksOf_append, hsilent]
      exact hdelivered

/-! ### The receivers return -/

/-- A system call returns. -/
theorem returns_syscall {τ : Type} (c : SysCall) : Returns (syscall c : Proc τ _) :=
  fun _ ↦ ⟨⟨.error (.other 0)⟩, fun _ ↦ trivial⟩

/-- Reading the object returns. -/
theorem returns_self {τ : Type} : Returns (self : Proc τ τ) := fun _ ↦ trivial

/-- An update returns. -/
theorem returns_update {τ : Type} (f : τ → τ) : Returns (update f) := fun _ ↦ trivial

/-- Waiting for input returns. -/
theorem returns_pollIn {τ : Type} : Returns (pollIn fd : Proc τ Int) :=
  (returns_syscall _).bind fun _ ↦ returns_pure _

private theorem returns_recvBuffer (o len : Nat) : Returns (recvBuffer fd o len) := by
  refine returns_self.bind fun b ↦ (returns_syscall _).bind fun r ↦ ?_
  cases r with
  | error e => exact returns_pure _
  | ok bs => exact (returns_update _).bind fun _ ↦ returns_pure _

private theorem returns_reassemble (rounds o : Nat) : Returns (reassemble fd n rounds o) := by
  induction rounds generalizing o with
  | zero => exact returns_pure _
  | succ rounds ih =>
    exact .ite (returns_pure _) (returns_pollIn.bind fun _ ↦ .ite (returns_pure _)
      ((returns_recvBuffer _ _).bind fun _ ↦ .ite (returns_pure _) (.ite (returns_pure _) (ih _))))

/-- Growing the buffer returns. -/
theorem returns_growBuffer (need : Nat) : Returns (growBuffer need) := by
  refine returns_self.bind fun b ↦ .ite ((returns_syscall _).bind fun r ↦ ?_) (returns_pure _)
  cases r with
  | error e => exact returns_pure _
  | ok block =>
    refine returns_self.bind fun b ↦ ?_
    split
    · exact fun _ ↦ ⟨⟨()⟩, fun _ ↦ trivial⟩
    · exact fun _ ↦ trivial

private theorem returns_receivePayload : Returns (receivePayload fd deliver success n) := by
  refine (returns_recvBuffer _ _).bind fun _ ↦ .ite (returns_pure _) (.ite (returns_pure _)
    ((returns_reassemble _ _).bind fun r ↦ ?_))
  cases r with
  | some r => exact returns_pure _
  | none =>
    cases deliver with
    | some f => exact fun _ ↦ ⟨⟨()⟩, fun _ ↦ trivial⟩
    | none => exact fun _ ↦ trivial

/-- Whatever the receiver is answered, it returns. -/
theorem returns_receiveTcpWith : Returns (receiveTcpWith fd deliver success) := by
  refine (returns_syscall _).bind fun r ↦ ?_
  cases r with
  | error e => exact returns_pure _
  | ok size =>
    refine .ite (returns_pure _) (.ite (returns_pure _) ((returns_growBuffer _).bind fun ok ↦ ?_))
    exact .ite returns_receivePayload (returns_pure _)

end

/-- `receive` returns in all surroundings that answer, and puts every message together exactly that
a new buffer is made for or that fits into the old one. -/
def Reassembles {τ : Type} (receive : Proc τ Int) (t : Thread τ) (b : ReceiveBuffer)
    (deliver : Option (List UInt8 → Callback)) : Prop :=
  (∀ {K : Type} (ker : Kernel posix K) (k : K), ker.Answers →
    ∃ tr r t' k', Exec receive t tr r t' ∧ ker.Accepts k tr k') ∧
  ∀ tr r t' n, Exec receive t tr r t' → announced tr = some n → 1 ≤ n →
    b.bufferSize < n ∨ n ≤ b.allocated → Reassembled deliver n tr

/-- **Reassembly.** Both roles put messages together exactly, and their loop is the one on
`uint32_t` counters. -/
theorem tcp_reassembly_exact {m : Nat} :
    (∀ (t : Thread (UdtcpServer m)) (slot : Nat),
      Reassembles (receiveTcp slot) t t.self.buffer (t.self.tcpDeliver slot)) ∧
    (∀ t : Thread UdtcpClient,
      Reassembles Client.receiveTcp t t.self.buffer (Client.tcpDeliver t.self)) ∧
    ∀ (fd : Fd) (dataSize : UInt32) (rounds : Nat),
      reassembleUInt32 fd dataSize rounds 0 = reassemble fd dataSize.toNat rounds 0 := by
  refine ⟨fun t slot ↦ ⟨fun ker k hker ↦ ?_, fun tr r t' n h hsize hpos hroom ↦ ?_⟩,
    fun t ↦ ⟨fun ker k hker ↦ ?_, fun tr r t' n h hsize hpos hroom ↦ ?_⟩,
    fun fd dataSize rounds ↦ reassembleUInt32_eq fd dataSize rounds (UInt32.zero_le)⟩
  · refine Returns.exists_exec (returns_self.bind fun s ↦ ?_) hker t k
    unfold onBuffer onPart
    exact returns_receiveTcpWith.zoom
  · obtain ⟨u, hu, -⟩ := exec_receiveTcp.mp h
    exact receiveTcpWith_reassembled hu hsize hpos hroom
  · refine Returns.exists_exec (returns_self.bind fun c ↦ ?_) hker t k
    unfold Client.onBuffer onPart
    exact returns_receiveTcpWith.zoom
  · obtain ⟨u, hu, -⟩ := Client.exec_receiveTcp.mp h
    exact receiveTcpWith_reassembled hu hsize hpos hroom

/-- A server with a buffer of three bytes that are not zero. -/
def usedServer : Thread (UdtcpServer 1) :=
  ⟨.other 0, { sampleServer.self with buffer := ⟨some ⟨9, 3, fun _ ↦ 255⟩, 3⟩ }⟩

/-- Surroundings that give a message of two bytes in two pieces. -/
def twoPieces : Handler posix Unit := fun _ c ↦
  match c with
  | .sys (.recv _ .word len) => some (.ok ⟨[2, 0, 0, 0].take len, List.length_take_le _ _⟩, ())
  | .sys (.recv _ (.buffer _ _ offset) len) =>
    some (.ok ⟨[if offset = 0 then 7 else 8].take len, List.length_take_le _ _⟩, ())
  | .sys (.poll fds _) => some (.ok (Vector.replicate fds.length POLLIN), ())
  | .callback _ => some ((), ())
  | _ => none

/-- The message is put together in the used buffer and handed over. -/
theorem tcp_reassembly_two_pieces : ∃ tr r t', Exec (receiveTcp 2) usedServer tr r t' ∧
    offsets tr = [0, 1] ∧ payload tr = [7, 8] ∧ (callbacksOf tr).length = 1 ∧
    Reassembled (usedServer.self.tcpDeliver 2) 2 tr := by
  have hrun : ((twoPieces.run (receiveTcp 2 usedServer) ()).map fun o ↦ decide
      (announced o.1 = some 2 ∧ offsets o.1 = [0, 1] ∧ payload o.1 = [7, 8] ∧
        (callbacksOf o.1).length = 1)) = some true := by
    decide +kernel
  obtain ⟨⟨tr, ⟨r, t'⟩, u⟩, hrun, hfacts⟩ := Option.map_eq_some_iff.mp hrun
  obtain ⟨hsize, hoffsets, hpayload, hcallbacks⟩ := of_decide_eq_true hfacts
  have hexec : Exec (receiveTcp 2) usedServer tr r t' :=
    ((twoPieces.run_eq_some_iff _ _ _ _ _).mp hrun).1
  exact ⟨tr, r, t', hexec, hoffsets, hpayload, hcallbacks,
    (tcp_reassembly_exact.1 usedServer 2).2 tr r t' 2 hexec hsize (by decide) (.inr (by decide))⟩

end Udtcp
