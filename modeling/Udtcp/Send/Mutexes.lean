import Udtcp.Interaction.Typestate
import Udtcp.Posix.Observe
import Udtcp.Send.Rules

/-!
# The mutexes of send structures

A mutex is initialised, then locked and unlocked in turns, and destroyed when nobody holds it. An
observer follows all addresses at once; a message locks the mutex of its record and gives it back.
-/

namespace Udtcp

open Interaction Routine

/-- What a mutex is: memory that was not initialised or was destroyed, free, or held. -/
inductive MutexState where
  | raw
  | free
  | held
  deriving DecidableEq, Repr

/-- What is done with a mutex. An attempt is a `pthread_mutex_lock` that reports an error. -/
inductive MutexEvent where
  | initialized
  | attempted
  | locked
  | unlocked
  | destroyed
  deriving DecidableEq, Repr

/-- The automaton of a mutex. -/
def mutexNext : MutexState → MutexEvent → Option MutexState
  | .raw, .initialized => some .free
  | .free, .attempted => some .free
  | .free, .locked => some .held
  | .held, .unlocked => some .free
  | .free, .destroyed => some .raw
  | _, _ => none

/-- What a call does to mutexes. An initialisation that fails leaves the memory as it was. -/
def mutexEvents : (c : Call) → c.Reply → List (UInt64 × MutexEvent)
  | .mutexInit addr, true => [(addr, .initialized)]
  | .mutexLock addr, true => [(addr, .locked)]
  | .mutexLock addr, false => [(addr, .attempted)]
  | .mutexUnlock addr, _ => [(addr, .unlocked)]
  | .mutexDestroy addr, _ => [(addr, .destroyed)]
  | _, _ => []

/-- The mutexes at all addresses. -/
abbrev Mutexes := Custody UInt64 MutexState

/-- The system, seen through the mutexes. -/
def mutexKernel : Kernel posix Mutexes := custodian mutexNext mutexEvents fun _ ↦ AnswerFits

/-- An event that is not about a mutex. -/
def NoMutex (e : Event posix) : Prop := mutexEvents e.call e.reply = []

/-- A system call is not about a mutex. -/
theorem noMutex_sys (c : SysCall) (r : Except Errno c.Result) : NoMutex ⟨.sys c, r⟩ := rfl

section

variable {k k' : Mutexes}

/-- A call that is not about a mutex leaves the mutexes alone. -/
theorem mutexKernel_eq_of_noMutex {c : Call} {r : c.Reply} (h : NoMutex ⟨c, r⟩)
    (hstep : mutexKernel k c r k') : k' = k := by
  have hnone : mutexEvents c r = [] := h
  rw [hstep.2, hnone]
  rfl

/-- So do many. -/
theorem accepts_mutexKernel_of_noMutex {tr : Trace posix} (h : ∀ e ∈ tr, NoMutex e)
    (ha : mutexKernel.Accepts k tr k') : k' = k :=
  ha.invariant (I := (· = k)) (fun e he _ _ hk hstep ↦
    (mutexKernel_eq_of_noMutex (h e he) hstep).trans hk) rfl

/-- What is not about mutexes leaves them as they are. -/
theorem must_noMutex {τ α : Type} {p : Proc τ α} {t : Thread τ} {Q : α → Thread τ → Mutexes → Prop}
    (hp : Emits NoMutex p) (hQ : ∀ tr a t', Exec p t tr a t' → Q a t' k) :
    Must mutexKernel p t k Q := by
  intro tr a t' k' hrun ha
  rw [accepts_mutexKernel_of_noMutex (hp _ _ _ _ hrun) ha]
  exact hQ tr a t' hrun

/-- Every name that is found keeps to the limit. -/
theorem length_le_of_accepts {tr : Trace posix} {name : List UInt8}
    (ha : mutexKernel.Accepts k tr k') (hname : .named name ∈ sightings tr) :
    NameFits name := by
  induction tr generalizing k with
  | nil => cases hname
  | cons e tr ih =>
    obtain ⟨k₁, hstep, hrest⟩ := ha
    rw [sightings_cons] at hname
    rcases List.mem_append.mp hname with he | he
    · exact hstep.1.name (Option.mem_toList.mp he)
    · exact ih hrest he

end

namespace Mutexes

variable {k : Mutexes} {addr : UInt64} {addrs : List UInt64}

/-- Exactly the mutexes at the addresses of a list are there, all of them free, and nothing was done
to one that did not allow it. -/
structure Ready (k : Mutexes) (addrs : List UInt64) : Prop where
  sound : k.sound = true
  state : ∀ a, k.state a = if a ∈ addrs then .free else .raw

namespace Ready

/-- No mutex is initialised in the beginning. -/
theorem start : Ready (.start .raw) [] := ⟨rfl, fun _ ↦ rfl⟩

/-- A mutex that is ready is free. -/
theorem state_of_mem (h : Ready k addrs) (ha : addr ∈ addrs) : k.state addr = .free := by
  rw [h.state, if_pos ha]

/-- The order of the mutexes does not matter. -/
theorem congr {addrs' : List UInt64} (h : Ready k addrs) (hm : ∀ a, a ∈ addrs' ↔ a ∈ addrs) :
    Ready k addrs' :=
  ⟨h.sound, fun a ↦ by rw [h.state]; simp only [hm]⟩

/-- One more is initialised. -/
theorem create (h : Ready k addrs) (ha : addr ∉ addrs) :
    Ready (k.enter mutexNext (addr, .initialized)) (addr :: addrs) := by
  have hraw : k.state addr = .raw := by rw [h.state, if_neg ha]
  rw [Custody.enter_eq (a := .free) (by rw [hraw]; rfl)]
  refine ⟨h.sound, fun a ↦ ?_⟩
  by_cases hsame : a = addr
  · rw [hsame, if_pos List.mem_cons_self]
    exact Function.update_self ..
  · show Function.update k.state addr .free a = _
    rw [Function.update_of_ne hsame, h.state]
    simp [hsame]

/-- The first one is destroyed. -/
theorem destroy (h : Ready k (addr :: addrs)) (ha : addr ∉ addrs) :
    Ready (k.enter mutexNext (addr, .destroyed)) addrs := by
  have hfree := h.state_of_mem List.mem_cons_self
  rw [Custody.enter_eq (a := .raw) (by rw [hfree]; rfl)]
  refine ⟨h.sound, fun a ↦ ?_⟩
  by_cases hsame : a = addr
  · rw [hsame, if_neg ha]
    exact Function.update_self ..
  · show Function.update k.state addr .raw a = _
    rw [Function.update_of_ne hsame, h.state]
    simp [hsame]

/-- A lock and the unlock behind it leave a free mutex as it was. -/
theorem enter_unlocked (h : k.state addr = .free) :
    (k.enter mutexNext (addr, .locked)).enter mutexNext (addr, .unlocked) = k := by
  have hheld : k.enter mutexNext (addr, .locked) =
      { k with state := Function.update k.state addr .held } :=
    Custody.enter_eq (by rw [h]; rfl)
  rw [hheld, Custody.enter_eq (a := .free) (by simp [mutexNext])]
  simp only [Function.update_idem, ← h, Function.update_eq_self]

end Ready

end Mutexes

/-- **Messages** lock the mutex of their record, if it is free, and give it back before they
return. -/
theorem must_run_mutexes {τ : Type} {t : Thread τ} {k : Mutexes} {message : Request}
    (h : k.state message.infos.send = .free) :
    Must mutexKernel message.run t k fun _ t' k' ↦ t'.self = t.self ∧ k' = k := by
  have hrules : MessageRules mutexKernel (fun (u : Thread τ) k₁ ↦ u.self = t.self ∧ k₁ = k)
      (fun u k₁ ↦ u.self = t.self ∧ k₁ = k.enter mutexNext (message.infos.send, .locked))
      message.infos := by
    refine ⟨fun u k₁ ok k₂ hI hstep ↦ ?_, fun u k₁ v k₂ hJ hstep ↦ ?_,
      fun c hc u k₁ r k₂ hJ hstep ↦ ?_, fun c hc u k₁ r k₂ hJ hstep ↦ ?_⟩
    · obtain ⟨hself, rfl⟩ := hI
      cases ok with
      | true => exact ⟨hself, hstep.2⟩
      | false => exact ⟨hself, hstep.2.trans (Custody.enter_stay (by rw [h]; rfl))⟩
    · obtain ⟨hself, rfl⟩ := hJ
      exact ⟨hself, hstep.2.trans (Mutexes.Ready.enter_unlocked h)⟩
    · rw [Thread.note_self]
      exact ⟨hJ.1, (mutexKernel_eq_of_noMutex (noMutex_sys c r) hstep).trans hJ.2⟩
    · have hnone : NoMutex ⟨c, r⟩ := by
        cases c
        case freeBuffer => rfl
        case loadSend => rfl
        case storeSend => rfl
        all_goals cases hc
      exact ⟨hJ.1, (mutexKernel_eq_of_noMutex hnone hstep).trans hJ.2⟩
  exact hrules.maintains_run t k ⟨rfl, rfl⟩

end Udtcp
