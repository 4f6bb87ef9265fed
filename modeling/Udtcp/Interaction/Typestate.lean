import Udtcp.Interaction.Environment

/-!
# Typestates

Resources of one kind, each in a state that says what may be done with it next. An observer follows
all of them at once and notes whether anything was done that the state of its resource did not
allow. As long as nothing was, each resource on its own has gone along a path of the automaton.
-/

namespace Interaction

variable {R A E : Type}

/-- What happened to one resource, oldest first. -/
def eventsOf [DecidableEq R] (r : R) (es : List (R × E)) : List E :=
  es.filterMap fun e ↦ if e.1 = r then some e.2 else none

/-- The states of all resources, and whether everything so far was allowed. -/
@[ext] structure Custody (R A : Type) where
  state : R → A
  sound : Bool

namespace Custody

variable [DecidableEq R] {next : A → E → Option A} {k : Custody R A} {es es' : List (R × E)}

/-- Every resource in the same state, and nothing done yet. -/
def start (a : A) : Custody R A := ⟨fun _ ↦ a, true⟩

/-- One event. What is not allowed changes no state. -/
def enter (next : A → E → Option A) (k : Custody R A) (e : R × E) : Custody R A :=
  match next (k.state e.1) e.2 with
  | some a => { k with state := Function.update k.state e.1 a }
  | none => { k with sound := false }

/-- Events in a row. -/
def follow (next : A → E → Option A) (k : Custody R A) (es : List (R × E)) : Custody R A :=
  es.foldl (enter next) k

@[simp] private theorem follow_nil : k.follow next [] = k := rfl

@[simp] private theorem follow_cons (e : R × E) :
    k.follow next (e :: es) = (k.enter next e).follow next es := rfl

/-- Events in two parts are followed one after the other. -/
theorem follow_append : k.follow next (es ++ es') = (k.follow next es).follow next es' :=
  List.foldl_append

/-- An event that is allowed moves its resource. -/
theorem enter_eq {r : R} {e : E} {a : A} (h : next (k.state r) e = some a) :
    k.enter next (r, e) = { k with state := Function.update k.state r a } := by
  simp only [enter, h]

/-- An event that is allowed and leaves its resource in its state changes nothing. -/
theorem enter_stay {r : R} {e : E} (h : next (k.state r) e = some (k.state r)) :
    k.enter next (r, e) = k := by
  rw [enter_eq h, Function.update_eq_self]

/-- Events that move no resource change nothing. -/
theorem follow_stay (h : ∀ e ∈ es, next (k.state e.1) e.2 = some (k.state e.1)) :
    k.follow next es = k := by
  induction es with
  | nil => rfl
  | cons e es ih =>
    obtain ⟨he, hes⟩ := List.forall_mem_cons.mp h
    rw [follow_cons, enter_stay he]
    exact ih hes

/-- What was not allowed is not forgotten. -/
theorem sound_of_enter {e : R × E} (h : (k.enter next e).sound = true) :
    k.sound = true ∧ (next (k.state e.1) e.2).isSome := by
  cases hnext : next (k.state e.1) e.2 with
  | none =>
    simp only [enter, hnext] at h
    cases h
  | some a =>
    simp only [enter, hnext] at h
    exact ⟨h, rfl⟩

private theorem sound_of_follow (h : (k.follow next es).sound = true) : k.sound = true := by
  induction es generalizing k with
  | nil => exact h
  | cons e es ih => exact (sound_of_enter (ih h)).1

/-- **Paths.** If everything was allowed, the events of each resource are a path of the automaton
from the state it was in to the one it is in now. -/
theorem path_of_sound (h : (k.follow next es).sound = true) (r : R) :
    (eventsOf r es).foldlM next (k.state r) = some ((k.follow next es).state r) := by
  induction es generalizing k with
  | nil => rfl
  | cons e es ih =>
    obtain ⟨-, hsome⟩ := sound_of_enter (sound_of_follow h)
    obtain ⟨a, ha⟩ := Option.isSome_iff_exists.mp hsome
    have hstate : (k.enter next e).state = Function.update k.state e.1 a := by rw [enter_eq ha]
    have hrest := ih h
    by_cases he : e.1 = r
    · subst he
      have hevents : eventsOf e.1 (e :: es) = e.2 :: eventsOf e.1 es := by simp [eventsOf]
      rw [hstate, Function.update_self] at hrest
      rw [hevents, List.foldlM_cons, ha]
      exact hrest
    · have hevents : eventsOf r (e :: es) = eventsOf r es := by simp [eventsOf, he]
      rw [hstate, Function.update_of_ne (Ne.symm he)] at hrest
      rw [hevents]
      exact hrest

end Custody

section

variable [DecidableEq R] {S : Signature} {next : A → E → Option A}
  {view : (c : S.Call) → S.Reply c → List (R × E)}
  {promise : Custody R A → (c : S.Call) → S.Reply c → Prop} {k k' : Custody R A}

/-- The observer as an environment: it follows what each call does to the resources, and the replies
are as promised. -/
def custodian (next : A → E → Option A) (view : (c : S.Call) → S.Reply c → List (R × E))
    (promise : Custody R A → (c : S.Call) → S.Reply c → Prop) : Kernel S (Custody R A) :=
  fun k c r k' ↦ promise k c r ∧ k' = k.follow next (view c r)

/-- What a trace does to the resources, oldest first. -/
def eventsIn (view : (c : S.Call) → S.Reply c → List (R × E)) (tr : Trace S) : List (R × E) :=
  tr.flatMap fun e ↦ view e.call e.reply

/-- A custodian ends where the events it saw lead. -/
theorem follow_of_accepts {tr : Trace S} (h : (custodian next view promise).Accepts k tr k') :
    k' = k.follow next (eventsIn view tr) := by
  induction tr generalizing k with
  | nil => exact h
  | cons e tr ih =>
    obtain ⟨k₁, ⟨-, rfl⟩, htr⟩ := h
    have hevents : eventsIn view (e :: tr) = view e.call e.reply ++ eventsIn view tr :=
      List.flatMap_cons
    rw [hevents, Custody.follow_append]
    exact ih htr

/-- A trace whose replies are always as promised is accepted. -/
theorem accepts_follow {tr : Trace S} (h : ∀ e ∈ tr, ∀ k, promise k e.call e.reply) :
    (custodian next view promise).Accepts k tr (k.follow next (eventsIn view tr)) := by
  induction tr generalizing k with
  | nil => rfl
  | cons e tr ih =>
    obtain ⟨he, htr⟩ := List.forall_mem_cons.mp h
    have hevents : eventsIn view (e :: tr) = view e.call e.reply ++ eventsIn view tr :=
      List.flatMap_cons
    rw [hevents, Custody.follow_append]
    exact ⟨_, ⟨he k, rfl⟩, ih htr⟩

namespace Routine

variable {σ α : Type} {s : σ} {Q : α → σ → Custody R A → Prop}

/-- A routine that only does what is allowed and leaves every resource in its state. -/
theorem must_stay {p : Routine S σ α} (hp : Emits (fun e : Event S ↦
    ∀ x ∈ view e.call e.reply, next (k.state x.1) x.2 = some (k.state x.1)) p)
    (hQ : ∀ tr a s', Exec p s tr a s' → Q a s' k) :
    Must (custodian next view promise) p s k Q := by
  intro tr a s' k' hrun ha
  have hsame : k' = k := ha.invariant (I := (· = k)) (fun e he k₁ k₂ hk hstep ↦ by
    subst hk
    exact hstep.2.trans (Custody.follow_stay (hp s tr a s' hrun e he))) rfl
  rw [hsame]
  exact hQ tr a s' hrun

end Routine

end

end Interaction
