import Udtcp.Posix.Observe

/-!
# A ledger of descriptors

Which descriptor numbers a program was given by `socket` and still has to close, which it has closed
since, and whether it ever used one of the latter.
-/

namespace Udtcp

open Interaction Routine

/-- What a call does with descriptors: it hands one out, closes one, or uses some. -/
inductive DescriptorUse where
  | opened (fd : Fd)
  | closed (fd : Fd)
  | used (fds : List Fd)
  deriving DecidableEq, Repr

/-- What a call does with descriptors, if anything: `socket`, `close`, `shutdown`, `poll`, and the
sends and receptions. -/
def descriptorUseOf : (c : Call) → c.Reply → Option DescriptorUse
  | .sys (.socket _), .ok fd => some (.opened fd.val)
  | .sys (.close fd), _ => some (.closed fd)
  | .sys (.shutdown fd), _ => some (.used [fd])
  | .sys (.poll fds _), _ => some (.used (fds.map (·.fd)))
  | .sys (.send fd _), _ => some (.used [fd])
  | .sys (.sendto fd _ _), _ => some (.used [fd])
  | .sys (.recv fd _ _), _ => some (.used [fd])
  | .sys (.recvfrom fd _ _ _), _ => some (.used [fd])
  | _, _ => none

/-- What a trace does with descriptors, oldest first. -/
def descriptorUses (tr : Trace posix) : List DescriptorUse :=
  tr.filterMap fun e ↦ descriptorUseOf e.call e.reply

/-- How descriptors are used in two parts of a trace. -/
@[simp] theorem descriptorUses_append (tr tr' : Trace posix) :
    descriptorUses (tr ++ tr') = descriptorUses tr ++ descriptorUses tr' := List.filterMap_append

/-- A number that was never handed out, one that is to be closed, or one that was closed. -/
inductive DescriptorState where
  | foreign
  | opened
  | released
  deriving DecidableEq, Repr

/-- The state of every number, and whether a released one was ever used or closed again. -/
structure Ledger where
  state : Fd → DescriptorState
  misused : Bool

namespace Ledger

/-- Nothing was handed out yet. -/
def empty : Ledger := ⟨fun _ ↦ .foreign, false⟩

/-- The ledger behind a use. To close a number that was never handed out changes nothing. -/
def enter (l : Ledger) : DescriptorUse → Ledger
  | .opened fd => { l with state := Function.update l.state fd .opened }
  | .closed fd =>
    match l.state fd with
    | .foreign => l
    | .opened => { l with state := Function.update l.state fd .released }
    | .released => { l with misused := true }
  | .used fds => { l with misused := l.misused || fds.any (l.state · = .released) }

/-- The ledger behind a trace. -/
def follow (l : Ledger) (tr : Trace posix) : Ledger := (descriptorUses tr).foldl enter l

/-- The kernel does not hand out a number that is still open. -/
def Grants (l : Ledger) : DescriptorUse → Prop
  | .opened fd => l.state fd ≠ .opened
  | .closed _ => True
  | .used _ => True

/-- The kernel keeps to that all the way. -/
def GrantsAll : Ledger → List DescriptorUse → Prop
  | _, [] => True
  | l, use :: uses => l.Grants use ∧ (l.enter use).GrantsAll uses

/-- Whether a use is granted can be checked. -/
instance (l : Ledger) (use : DescriptorUse) : Decidable (l.Grants use) :=
  match use with
  | .opened _ => inferInstanceAs (Decidable (_ ≠ _))
  | .closed _ => inferInstanceAs (Decidable True)
  | .used _ => inferInstanceAs (Decidable True)

/-- So can whether all of a list are. -/
instance decidableGrantsAll : (l : Ledger) → (uses : List DescriptorUse) →
    Decidable (l.GrantsAll uses)
  | _, [] => inferInstanceAs (Decidable True)
  | l, use :: uses =>
    have := decidableGrantsAll (l.enter use) uses
    inferInstanceAs (Decidable (_ ∧ _))

/-- Every number handed out was closed once, and no number was used or closed behind that before it
was handed out again. -/
structure Balanced (l : Ledger) : Prop where
  closed : ∀ fd, l.state fd ≠ .opened
  unmisused : l.misused = false

/-- The ledger follows two parts of a trace one after the other. -/
theorem follow_append (l : Ledger) (tr tr' : Trace posix) :
    l.follow (tr ++ tr') = (l.follow tr).follow tr' := by
  rw [follow, descriptorUses_append, List.foldl_append]
  rfl

/-- All uses of two parts are granted one part after the other. -/
theorem grantsAll_append {l : Ledger} {uses uses' : List DescriptorUse} :
    l.GrantsAll (uses ++ uses') ↔ l.GrantsAll uses ∧ (uses.foldl enter l).GrantsAll uses' := by
  induction uses generalizing l with
  | nil => exact (iff_of_eq (true_and _)).symm
  | cons use uses ih =>
    rw [List.cons_append, GrantsAll, GrantsAll, ih, and_assoc]
    rfl

/-- Where nothing is handed out there is nothing to grant. -/
theorem grantsAll_of_unopened {l : Ledger} {uses : List DescriptorUse}
    (h : ∀ use ∈ uses, ∀ fd, use ≠ .opened fd) : l.GrantsAll uses := by
  induction uses generalizing l with
  | nil => trivial
  | cons use uses ih =>
    obtain ⟨huse, huses⟩ := List.forall_mem_cons.mp h
    refine ⟨?_, ih huses⟩
    cases use
    case opened fd => exact absurd rfl (huse fd)
    all_goals trivial

/-- A misuse is never forgotten. -/
theorem misused_follow {l : Ledger} (h : l.misused = true) (tr : Trace posix) :
    (l.follow tr).misused = true := by
  rw [follow]
  induction descriptorUses tr generalizing l with
  | nil => exact h
  | cons use uses ih =>
    refine ih ?_
    cases use with
    | opened fd => exact h
    | closed fd =>
      rw [enter]
      split
      · exact h
      · exact h
      · rfl
    | used fds => simp [enter, h]

/-- The use of numbers that are not released leaves no entry. -/
theorem enter_used {l : Ledger} {fds : List Fd} (h : ∀ fd ∈ fds, l.state fd ≠ .released) :
    l.enter (.used fds) = l := by
  have hany : fds.any (l.state · = .released) = false := by simpa using h
  rw [enter, hany, Bool.or_false]

/-- Closing an open descriptor releases it. -/
theorem enter_closed_opened {l : Ledger} {fd : Fd} (h : l.state fd = .opened) :
    l.enter (.closed fd) = { l with state := Function.update l.state fd .released } := by
  simp [enter, h]

/-- Closing a foreign descriptor changes nothing. -/
theorem enter_closed_foreign {l : Ledger} {fd : Fd} (h : l.state fd = .foreign) :
    l.enter (.closed fd) = l := by
  simp [enter, h]

/-- To close a number that is not released changes the state of that number alone, and it is not
open behind it. -/
theorem enter_closed {l : Ledger} {fd : Fd} (h : l.state fd ≠ .released) :
    (l.enter (.closed fd)).misused = l.misused ∧ (l.enter (.closed fd)).state fd ≠ .opened ∧
      ∀ f, f ≠ fd → (l.enter (.closed fd)).state f = l.state f := by
  cases hstate : l.state fd with
  | foreign =>
    rw [enter_closed_foreign hstate, hstate]
    exact ⟨rfl, nofun, fun _ _ ↦ rfl⟩
  | opened =>
    rw [enter_closed_opened hstate]
    exact ⟨rfl, (Function.update_self ..).trans_ne nofun, fun f hf ↦ Function.update_of_ne hf _ _⟩
  | released => exact absurd hstate h

end Ledger

/-- The kernel, seen through the ledger. -/
def ledgerKernel : Kernel posix Ledger := fun l c r l' ↦
  match descriptorUseOf c r with
  | none => l' = l
  | some use => l.Grants use ∧ l' = l.enter use

/-- The ledger accepts what it grants and follows it. -/
theorem accepts_ledgerKernel {l l' : Ledger} {tr : Trace posix} :
    ledgerKernel.Accepts l tr l' ↔ l.GrantsAll (descriptorUses tr) ∧ l' = l.follow tr := by
  induction tr generalizing l with
  | nil => exact (iff_of_eq (true_and _)).symm
  | cons e tr ih =>
    rw [Kernel.accepts_cons, Ledger.follow, descriptorUses, List.filterMap_cons]
    simp only [ledgerKernel, ih]
    cases descriptorUseOf e.call e.reply with
    | none =>
      constructor
      · rintro ⟨l₁, rfl, h⟩
        exact h
      · exact fun h ↦ ⟨l, rfl, h⟩
    | some use =>
      constructor
      · rintro ⟨l₁, ⟨hgrant, rfl⟩, hgrants, hl'⟩
        exact ⟨⟨hgrant, hgrants⟩, hl'⟩
      · rintro ⟨⟨hgrant, hgrants⟩, hl'⟩
        exact ⟨_, ⟨hgrant, rfl⟩, hgrants, hl'⟩

/-- A call that uses the number `fd` at most. -/
def UsesOnly (fd : Fd) (e : Event posix) : Prop :=
  ∀ use, descriptorUseOf e.call e.reply = some use → ∃ fds, use = .used fds ∧ ∀ f ∈ fds, f = fd

/-- Calls that use a number at most that is not released leave no entry. -/
theorem UsesOnly.ledger_eq {l l' : Ledger} {fd : Fd} {e : Event posix} (h : UsesOnly fd e)
    (hfd : l.state fd ≠ .released) (he : ledgerKernel l e.call e.reply l') : l' = l := by
  simp only [ledgerKernel] at he
  cases huse : descriptorUseOf e.call e.reply with
  | none =>
    rw [huse] at he
    exact he
  | some use =>
    rw [huse] at he
    obtain ⟨fds, rfl, hfds⟩ := h use huse
    exact he.2.trans (Ledger.enter_used fun f hf ↦ hfds f hf ▸ hfd)

/-- Calls that use no number leave no entry. -/
theorem ledger_eq_of_unused {l l' : Ledger} {tr : Trace posix}
    (h : ∀ e ∈ tr, descriptorUseOf e.call e.reply = none) (ha : ledgerKernel.Accepts l tr l') :
    l' = l := by
  refine ha.invariant (I := (· = l)) (fun e he l₁ l₂ hl₁ hstep ↦ ?_) rfl
  simp only [ledgerKernel, h e he] at hstep
  exact hstep.trans hl₁

/-- Uses of a descriptor that is not released leave the ledger as it is. -/
theorem ledger_eq_of_usesOnly {l l' : Ledger} {fd : Fd} {tr : Trace posix}
    (h : ∀ e ∈ tr, UsesOnly fd e) (hfd : l.state fd ≠ .released)
    (ha : ledgerKernel.Accepts l tr l') : l' = l := by
  refine ha.invariant (I := (· = l)) (fun e he l₁ l₂ hl₁ hstep ↦ ?_) rfl
  subst hl₁
  exact (h e he).ledger_eq hfd hstep

end Udtcp
