import Mathlib

/-!
# Programs that call an environment

A program over a signature of calls is a tree: it returns, it is observed no further,
or it makes one call and continues with the reply. Its meaning is the set of its
complete traces (`Program.Path`); an environment is a labelled transition relation on
those traces (`Kernel`). Nothing here names a particular signature.
-/

namespace Interaction

/-- Calls a program can make, each with the type of its replies. -/
structure Signature where
  Call : Type
  Reply : Call → Type

/-- One call together with the reply it was given. -/
structure Event (S : Signature) where
  call : S.Call
  reply : S.Reply call

/-- A finite trace of calls and replies, oldest first. -/
abbrev Trace (S : Signature) := List (Event S)

/-- Programs over `S`. The leaf `stop` ends the observation, not the program: a loop
that is followed for a bounded number of rounds ends in it. -/
inductive Program (S : Signature) (α : Type) : Type where
  | ret (a : α)
  | stop
  | call (c : S.Call) (next : S.Reply c → Program S α)

namespace Program

variable {S : Signature} {α β γ : Type}

/-- Sequential composition, grafting `f` onto the returning leaves. -/
def bind : Program S α → (α → Program S β) → Program S β
  | .ret a, f => f a
  | .stop, _ => .stop
  | .call c next, f => .call c fun r ↦ (next r).bind f

/-- Programs in a row. -/
instance : Monad (Program S) where
  pure := .ret
  bind := bind

/-- The program that makes the single call `c` and returns its reply. -/
def perform (c : S.Call) : Program S (S.Reply c) := .call c .ret

@[simp] private theorem pure_eq_ret (a : α) : (pure a : Program S α) = .ret a := rfl

@[simp] private theorem ret_bind (a : α) (f : α → Program S β) :
    (ret a : Program S α) >>= f = f a := rfl

@[simp] private theorem stop_bind (f : α → Program S β) : (stop : Program S α) >>= f = .stop := rfl

@[simp] private theorem call_bind (c : S.Call) (next : S.Reply c → Program S α)
    (f : α → Program S β) :
    (call c next : Program S α) >>= f = .call c fun r ↦ next r >>= f := rfl

@[simp] private theorem bind_eq (p : Program S α) (f : α → Program S β) : p.bind f = p >>= f := rfl

private theorem bind_ret (p : Program S α) : (p >>= fun a ↦ .ret a) = p := by
  induction p with
  | ret a => rfl
  | stop => rfl
  | call c next ih => simp [ih]

/-- Programs in a row can be grouped at will. -/
theorem bind_assoc (p : Program S α) (f : α → Program S β) (g : β → Program S γ) :
    p >>= f >>= g = p >>= fun a ↦ f a >>= g := by
  induction p with
  | ret a => rfl
  | stop => rfl
  | call c next ih => simp [ih]

/-- Programs obey the laws of monads. -/
instance : LawfulMonad (Program S) :=
  LawfulMonad.mk' (Program S) (fun p ↦ bind_ret p) (fun _ _ ↦ rfl) bind_assoc

/-! ### Complete traces -/

/-- `p.Path tr a`: with the replies recorded in `tr`, `p` runs to its end and returns `a`. -/
def Path : Program S α → Trace S → α → Prop
  | .ret a, tr, b => tr = [] ∧ b = a
  | .stop, _, _ => False
  | .call c next, tr, b => ∃ r rest, tr = ⟨c, r⟩ :: rest ∧ (next r).Path rest b

/-- A result makes no calls. -/
@[simp] theorem path_ret {a b : α} {tr : Trace S} :
    (ret a : Program S α).Path tr b ↔ tr = [] ∧ b = a := Iff.rfl

@[simp] private theorem path_stop {b : α} {tr : Trace S} : ¬ (stop : Program S α).Path tr b := id

/-- A call is answered first, and the rest goes on with the answer. -/
@[simp] theorem path_call {c : S.Call} {next : S.Reply c → Program S α} {tr : Trace S} {b : α} :
    (call c next).Path tr b ↔ ∃ r rest, tr = ⟨c, r⟩ :: rest ∧ (next r).Path rest b := Iff.rfl

@[simp] private theorem path_perform {c : S.Call} {tr : Trace S} {r : S.Reply c} :
    (perform c).Path tr r ↔ tr = [⟨c, r⟩] := by
  simp only [perform, path_call, path_ret]
  constructor
  · rintro ⟨s, rest, rfl, rfl, rfl⟩
    rfl
  · rintro rfl
    exact ⟨r, [], rfl, rfl, rfl⟩

/-- The traces of a composition are the concatenations of traces of its parts. -/
theorem path_bind {p : Program S α} {f : α → Program S β} {tr : Trace S} {b : β} :
    (p >>= f).Path tr b ↔ ∃ tr₁ a tr₂, tr = tr₁ ++ tr₂ ∧ p.Path tr₁ a ∧ (f a).Path tr₂ b := by
  induction p generalizing tr with
  | ret a =>
    constructor
    · intro h
      exact ⟨[], a, tr, rfl, ⟨rfl, rfl⟩, h⟩
    · rintro ⟨tr₁, a', tr₂, rfl, ⟨rfl, rfl⟩, h⟩
      exact h
  | stop =>
    constructor
    · intro h
      cases h
    · rintro ⟨_, _, _, _, h, _⟩
      cases h
  | call c next ih =>
    simp only [call_bind, path_call]
    constructor
    · rintro ⟨r, rest, rfl, h⟩
      obtain ⟨tr₁, a, tr₂, rfl, h₁, h₂⟩ := (ih r).mp h
      exact ⟨⟨c, r⟩ :: tr₁, a, tr₂, rfl, ⟨r, tr₁, rfl, h₁⟩, h₂⟩
    · rintro ⟨_, a, tr₂, rfl, ⟨r, tr₁, rfl, h₁⟩, h₂⟩
      exact ⟨r, tr₁ ++ tr₂, rfl, (ih r).mpr ⟨tr₁, a, tr₂, rfl, h₁, h₂⟩⟩

end Program

/-! ### Environments -/

/-- An environment with states `K`: `ker k c r k'` holds when, in state `k`, the call
`c` may be answered by `r`, leaving the environment in `k'`. -/
abbrev Kernel (S : Signature) (K : Type) := K → (c : S.Call) → S.Reply c → K → Prop

namespace Kernel

variable {S : Signature} {K : Type} (ker : Kernel S K)

/-- The environment can answer the whole trace, from the first state to the second. -/
def Accepts : K → Trace S → K → Prop
  | k, [], k' => k' = k
  | k, e :: tr, k' => ∃ k₁, ker k e.call e.reply k₁ ∧ Accepts k₁ tr k'

@[simp] private theorem accepts_nil {k k' : K} : ker.Accepts k [] k' ↔ k' = k := Iff.rfl

/-- The answers of an environment, one event at a time. -/
@[simp] theorem accepts_cons {k k' : K} {e : Event S} {tr : Trace S} :
    ker.Accepts k (e :: tr) k' ↔ ∃ k₁, ker k e.call e.reply k₁ ∧ ker.Accepts k₁ tr k' := Iff.rfl

/-- The answers to two parts of a trace. -/
theorem accepts_append {k k' : K} {tr₁ tr₂ : Trace S} :
    ker.Accepts k (tr₁ ++ tr₂) k' ↔ ∃ k₁, ker.Accepts k tr₁ k₁ ∧ ker.Accepts k₁ tr₂ k' := by
  induction tr₁ generalizing k with
  | nil => simp
  | cons e tr₁ ih =>
    simp only [List.cons_append, accepts_cons, ih]
    constructor
    · rintro ⟨k₁, he, k₂, h₁, h₂⟩
      exact ⟨k₂, ⟨k₁, he, h₁⟩, h₂⟩
    · rintro ⟨k₂, ⟨k₁, he, h₁⟩, h₂⟩
      exact ⟨k₁, he, k₂, h₁, h₂⟩

/-- Surroundings that may answer whatever others may answer accept what those accept. -/
theorem Accepts.mono {ker ker' : Kernel S K} {k k' : K} {tr : Trace S} (h : ker.Accepts k tr k')
    (hle : ∀ k c r k', ker k c r k' → ker' k c r k') : ker'.Accepts k tr k' := by
  induction tr generalizing k with
  | nil => exact h
  | cons e tr ih =>
    obtain ⟨k₁, he, ht⟩ := h
    exact ⟨k₁, hle _ _ _ _ he, ih ht⟩

/-- What every single answer preserves, every accepted trace preserves. -/
theorem Accepts.invariant {ker : Kernel S K} {I : K → Prop} {k k' : K} {tr : Trace S}
    (h : ker.Accepts k tr k')
    (step : ∀ e ∈ tr, ∀ k₁ k₂, I k₁ → ker k₁ e.call e.reply k₂ → I k₂) (hk : I k) : I k' := by
  induction tr generalizing k with
  | nil => exact h ▸ hk
  | cons e tr ih =>
    obtain ⟨k₁, he, ht⟩ := h
    exact ih ht (fun e' he' ↦ step e' (List.mem_cons_of_mem _ he')) (step e (by simp) k k₁ hk he)

end Kernel

/-- `p` runs to its end against the environment `ker`. -/
def Program.Runs {S : Signature} {K α : Type} (ker : Kernel S K) (p : Program S α)
    (k : K) (a : α) (k' : K) : Prop :=
  ∃ tr, p.Path tr a ∧ ker.Accepts k tr k'

/-! ### Environments that answer by a function -/

/-- A deterministic environment; `none` where it gives no answer. -/
abbrev Handler (S : Signature) (K : Type) := K → (c : S.Call) → Option (S.Reply c × K)

namespace Handler

variable {S : Signature} {K α : Type}

/-- The environment relation of a handler. -/
def kernel (h : Handler S K) : Kernel S K := fun k c r k' ↦ h k c = some (r, k')

/-- Run a program against a handler, recording the trace. -/
def run (h : Handler S K) : Program S α → K → Option (Trace S × α × K)
  | .ret a, k => some ([], a, k)
  | .stop, _ => none
  | .call c next, k =>
    match h k c with
    | none => none
    | some (r, k₁) => (run h (next r) k₁).map fun o ↦ (⟨c, r⟩ :: o.1, o.2)

/-- Running a handler decides the accepted complete traces. -/
theorem run_eq_some_iff (h : Handler S K) (p : Program S α) (k : K) (tr : Trace S) (a : α)
    (k' : K) : h.run p k = some (tr, a, k') ↔ p.Path tr a ∧ h.kernel.Accepts k tr k' := by
  induction p generalizing k tr with
  | ret b =>
    simp only [run, Option.some.injEq, Prod.mk.injEq, Program.path_ret]
    constructor
    · rintro ⟨rfl, rfl, rfl⟩
      exact ⟨⟨rfl, rfl⟩, rfl⟩
    · rintro ⟨⟨rfl, rfl⟩, ha⟩
      exact ⟨rfl, rfl, ha.symm⟩
  | stop => simp [run]
  | call c next ih =>
    simp only [run, Program.path_call]
    cases hc : h k c with
    | none =>
      simp only [false_iff, reduceCtorEq]
      rintro ⟨⟨r, rest, rfl, _⟩, k₁, hk, _⟩
      simp [kernel, hc] at hk
    | some o =>
      obtain ⟨r, k₁⟩ := o
      simp only [Option.map_eq_some_iff]
      constructor
      · rintro ⟨⟨rest, b, k₂⟩, hr, he⟩
        obtain ⟨rfl, rfl, rfl⟩ := by simpa using he
        obtain ⟨hp, ha⟩ := (ih r k₁ rest).mp hr
        exact ⟨⟨r, rest, rfl, hp⟩, k₁, hc, ha⟩
      · rintro ⟨⟨r', rest, rfl, hp⟩, k₂, hk, ha⟩
        simp only [kernel, hc, Option.some.injEq, Prod.mk.injEq] at hk
        obtain ⟨rfl, rfl⟩ := hk
        exact ⟨(rest, a, k'), (ih r k₁ rest).mpr ⟨hp, ha⟩, rfl⟩

end Handler

end Interaction
