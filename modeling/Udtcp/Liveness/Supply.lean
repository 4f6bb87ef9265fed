import Udtcp.Interaction.Completion
import Udtcp.Server.Poll

/-!
# A network with only so much to give

What the calls of a pass take from the network, and the rules of total correctness for the calls and
for the drain loops of `server_poll.c` and `client_poll.c`.
-/

namespace Udtcp

open Interaction Routine

/-- A call that takes something the network brought: a connection, bytes, a datagram. -/
def Consumes : (c : Call) → c.Reply → Prop
  | .sys (.accept _), .ok _ => True
  | .sys (.recv _ _ _), .ok bs => bs.val ≠ []
  | .sys (.recvfrom _ _ _ false), .ok _ => True
  | _, _ => False

/-- Surroundings that have `supply k` things to give: nothing adds to them, and what a call takes is
gone. Host names have at most 255 bytes. -/
structure Supplies {K : Type} (ker : Kernel posix K) (supply : K → Nat) : Prop where
  le : ∀ k c r k', ker k c r k' → supply k' ≤ supply k
  lt : ∀ k c r k', ker k c r k' → Consumes c r → supply k' < supply k
  name : ∀ k key name k', ker k (.gethostbyaddr key) (some name) k' → NameFits name

section

variable {K : Type} {ker : Kernel posix K} {supply : K → Nat} {k k' : K} {tr : Trace posix}

/-- The supply never grows. -/
theorem Supplies.accepts_le (h : Supplies ker supply) (ha : ker.Accepts k tr k') :
    supply k' ≤ supply k := by
  refine ha.invariant (I := fun k₁ ↦ supply k₁ ≤ supply k) (fun e _ k₁ k₂ hk₁ hstep ↦ ?_)
    (Nat.le_refl _)
  have hle := h.le k₁ _ _ k₂ hstep
  omega

/-- A run that takes something leaves less. -/
theorem Supplies.accepts_lt (h : Supplies ker supply) (ha : ker.Accepts k tr k')
    (htaken : ∃ e ∈ tr, Consumes e.call e.reply) : supply k' < supply k := by
  obtain ⟨e, he, htaken⟩ := htaken
  obtain ⟨tr₁, tr₂, rfl⟩ := List.append_of_mem he
  obtain ⟨k₁, ha₁, k₂, hstep, ha₂⟩ := ker.accepts_append.mp ha
  have h₁ := h.accepts_le ha₁
  have h₂ := h.lt k₁ _ _ k₂ hstep htaken
  have h₃ := h.accepts_le ha₂
  omega

end

/-! ### Rules for the calls -/

section

variable {τ σ α K : Type} {ker : Kernel posix K} {t : Thread τ} {k : K}
  {Q : α → Thread τ → K → Prop}

/-- A call that has an answer returns. -/
theorem returns_request {c : Call} (hc : Nonempty c.Reply) : Returns (request c : Proc τ _) :=
  fun _ ↦ ⟨hc, fun _ ↦ trivial⟩

/-- So does one whose answer says nothing. -/
theorem returns_issue {c : Call} (hc : Nonempty c.Reply) : Returns (issue c : Proc τ Unit) :=
  fun _ ↦ ⟨hc, fun _ ↦ trivial⟩

/-- A routine that returns, on a part of the object. -/
theorem Routine.Returns.onPart {view : τ → σ} {put : σ → τ → τ} {m : Proc σ α} (h : Returns m) :
    Returns (onPart view put m) := h.zoom

/-- Rule for a system call. -/
theorem total_syscall_bind {c : SysCall} {f : Except Errno c.Result → Proc τ α}
    (h : ∀ r k', ker k (.sys c) r k' → Total ker (f r) (t.note r) k' Q) :
    Total ker (syscall c >>= f) t k Q := ⟨⟨.error (.other 0)⟩, h⟩

/-- Rule for a call with a reply. -/
theorem total_request_bind {c : Call} {f : c.Reply → Proc τ α} (hc : Nonempty c.Reply)
    (h : ∀ r k', ker k c r k' → Total ker (f r) t k' Q) : Total ker (request c >>= f) t k Q :=
  ⟨hc, h⟩

/-- Rule for a call without a reply. -/
theorem total_issue_bind {c : Call} {f : Unit → Proc τ α} (hc : Nonempty c.Reply)
    (h : ∀ r k', ker k c r k' → Total ker (f ()) t k' Q) : Total ker (issue c >>= f) t k Q :=
  ⟨hc, h⟩

/-- Rule for reading the object. -/
theorem total_self_bind {f : τ → Proc τ α} (h : Total ker (f t.self) t k Q) :
    Total ker (self >>= f) t k Q := h

/-- Rule for reading `errno`. -/
theorem total_errno_bind {f : Errno → Proc τ α} (h : Total ker (f t.errno) t k Q) :
    Total ker (errno >>= f) t k Q := h

/-- Rule for an update at the end. -/
theorem total_update {g : τ → τ} {Q : Unit → Thread τ → K → Prop}
    (h : Q () { t with self := g t.self } k) : Total ker (update g) t k Q := h

/-- Rule for an update. -/
theorem total_update_bind {g : τ → τ} {f : Unit → Proc τ α}
    (h : Total ker (f ()) { t with self := g t.self } k Q) : Total ker (update g >>= f) t k Q := h

/-- Rule for a routine on a part of the object. -/
theorem total_onPart {view : τ → σ} {put : σ → τ → τ} {m : Proc σ α}
    (h : Total ker m ⟨t.errno, view t.self⟩ k fun a u k' ↦ Q a ⟨u.errno, put u.self t.self⟩ k') :
    Total ker (onPart view put m) t k Q :=
  total_zoom h

/-- **Rule for the drain loops.** A drain loop ends if every call of its body ends, and takes
something whenever the loop goes on. -/
theorem total_drain {supply : K → Nat} (hker : Supplies ker supply) {body : Proc τ Int}
    {again : Int → Bool} {fuel : Nat} {I : Thread τ → K → Prop} (hfuel : supply k < fuel)
    (flag : ∀ t k r k', I t k → ker k .pollLoop r k' → I t k')
    (round : ∀ t k, I t k → Total ker body t k fun n t' k' ↦
      I t' k' ∧ (again n = true → supply k' < supply k))
    (h : I t k) : Total ker (drain fuel body again) t k fun _ t' k' ↦ I t' k' := by
  unfold drain
  refine total_bind ((round t k h).mono fun n t₁ k₁ hn ↦ ?_)
  refine total_loop (fun _ ↦ I) (fun n _ k ↦ if again n = true then supply k + 1 else 0) hn.1 ?_ ?_
  · split
    · next hagain =>
      have hless := hn.2 hagain
      omega
    · omega
  intro n t k hI
  refine total_request_bind ⟨true⟩ fun on k' hk ↦ total_ite (fun hon ↦ ?_) fun _ ↦ ?_
  · obtain ⟨-, hagain⟩ := Bool.and_eq_true_iff.mp hon
    have hle := hker.le _ _ _ _ hk
    refine total_bind ((round t k' (flag _ _ _ _ hI hk)).mono fun n' t₂ k₂ hn' ↦
      total_pure ⟨hn'.1, ?_⟩)
    rw [if_pos hagain]
    split
    · next hagain' =>
      have hless := hn'.2 hagain'
      omega
    · omega
  · exact total_pure (flag _ _ _ _ hI hk)

end

end Udtcp
