import Udtcp.Bytes.Slice

/-!
# Length-prefixed frames

A message travels as four bytes of size followed by its bytes. Frames form a prefix code,
so a byte stream has at most one reading as a sequence of frames, and a stream that is cut
inside a frame has none.
-/

namespace Bytes

/-- The frame of a message: four bytes of size, then the message. -/
def frame (data : List UInt8) : List UInt8 := leBytes 4 data.length ++ data

/-- The frames of a list of messages, one after the other. -/
def frames (ms : List (List UInt8)) : List UInt8 := ms.flatMap frame

/-- A size that fits into the four bytes in front of a message. -/
def Framable (m : List UInt8) : Prop := m.length < 2 ^ 32

/-- A byte stream made of whole frames. -/
def Whole (bs : List UInt8) : Prop := ∃ ms, (∀ m ∈ ms, Framable m) ∧ bs = frames ms

/-- The beginning of a frame, without its end. -/
def Incomplete (bs : List UInt8) : Prop :=
  ∃ m, Framable m ∧ bs <+: frame m ∧ bs.length < (frame m).length

/-- A frame is four bytes longer than its message. -/
@[simp] theorem length_frame (m : List UInt8) : (frame m).length = 4 + m.length := by
  simp [frame]

/-- No messages have no frames. -/
@[simp] theorem frames_nil : frames [] = [] := rfl

/-- The frames of messages stand one behind the other. -/
@[simp] theorem frames_cons (m : List UInt8) (ms : List (List UInt8)) :
    frames (m :: ms) = frame m ++ frames ms := rfl

@[simp] private theorem frames_append (ms ns : List (List UInt8)) :
    frames (ms ++ ns) = frames ms ++ frames ns := by
  simp [frames]

/-- The size in front of a message is read back. -/
theorem leNat_take_frame {m : List UInt8} (h : Framable m) (rest : List UInt8) :
    leNat ((frame m ++ rest).take 4) = m.length := by
  have ht : (frame m ++ rest).take 4 = leBytes 4 m.length := by
    rw [frame, List.append_assoc, List.take_append_of_le_length (by simp),
      List.take_of_length_le (by simp)]
  rw [ht]
  exact leNat_leBytes_of_lt h

/-- **Prefix code.** Two frames at the front of the same bytes are the same. -/
theorem frame_append_inj {m n a b : List UInt8} (hm : Framable m) (hn : Framable n)
    (h : frame m ++ a = frame n ++ b) : m = n ∧ a = b := by
  have hlen : m.length = n.length := by
    rw [← leNat_take_frame hm a, h, leNat_take_frame hn b]
  obtain ⟨hf, hab⟩ := List.append_inj h (by simp [hlen])
  rw [frame, frame, hlen] at hf
  exact ⟨List.append_cancel_left hf, hab⟩

/-- No bytes are whole frames. -/
theorem whole_nil : Whole [] := ⟨[], by simp⟩

/-- One more frame behind whole ones. -/
theorem Whole.append_frame {bs m : List UInt8} (h : Whole bs) (hm : Framable m) :
    Whole (bs ++ frame m) := by
  obtain ⟨ms, hms, rfl⟩ := h
  refine ⟨ms ++ [m], ?_, by simp⟩
  intro k hk
  rcases List.mem_append.mp hk with hk | hk
  · exact hms k hk
  · rw [List.mem_singleton.mp hk]
    exact hm

/-- **A cut stream cannot be read.** Whole frames followed by the non-empty beginning of
another frame are not a sequence of whole frames. -/
theorem Whole.not_whole_append {bs part : List UInt8} (h : Whole bs) (hp : Incomplete part)
    (hne : part ≠ []) : ¬ Whole (bs ++ part) := by
  obtain ⟨ms, hms, rfl⟩ := h
  rintro ⟨ns, hns, he⟩
  induction ms generalizing ns with
  | nil =>
    obtain ⟨m, hm, ⟨rest, hrest⟩, hlt⟩ := hp
    cases ns with
    | nil => exact hne he
    | cons n ns =>
      -- the first frame read would have to be longer than all there is
      have hpart : part = frame n ++ frames ns := he
      rw [hpart, List.append_assoc] at hrest
      obtain ⟨hnm, -⟩ := frame_append_inj (hns n (by simp)) hm
        (hrest.trans (List.append_nil _).symm)
      rw [hpart, hnm, List.length_append] at hlt
      omega
  | cons m ms ih =>
    cases ns with
    | nil =>
      have hlen := congrArg List.length he
      simp at hlen
    | cons n ns =>
      rw [frames_cons, frames_cons, List.append_assoc] at he
      obtain ⟨-, he⟩ := frame_append_inj (hms m (by simp)) (hns n (by simp)) he
      exact ih (fun k hk ↦ hms k (List.mem_cons_of_mem _ hk)) ns
        (fun k hk ↦ hns k (List.mem_cons_of_mem _ hk)) he

end Bytes
