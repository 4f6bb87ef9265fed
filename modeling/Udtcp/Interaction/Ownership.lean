import Mathlib.Logic.Function.Basic

/-!
# Cells behind locks

Parties share cells, each behind a lock at the same address. While a party holds a lock it claims
the cell behind it, and what it claims to be there is there; a cell goes back with its lock in
order. Each operation keeps this, so no two parties ever work on one cell.
-/

namespace Interaction

variable {A V ι : Type} {good : V → Prop} {cells : A → V} {holder : A → Option ι}
  {claim : ι → Option (A × V)}

/-- Held locks are claimed by their holders and claims are true; free cells are in order. -/
structure Owned (good : V → Prop) (cells : A → V) (holder : A → Option ι)
    (claim : ι → Option (A × V)) : Prop where
  held : ∀ a i, holder a = some i → ∃ v, claim i = some (a, v)
  claimed : ∀ i a v, claim i = some (a, v) → holder a = some i ∧ cells a = v
  free : ∀ a, holder a = none → good (cells a)

namespace Owned

/-- In the beginning every cell is good and nobody holds one. -/
theorem start (h : ∀ a, good (cells a)) :
    Owned good cells (fun _ ↦ (none : Option ι)) fun _ ↦ none :=
  ⟨nofun, nofun, fun a _ ↦ h a⟩

/-- A claimed address is not another party's. -/
theorem unique (h : Owned good cells holder claim) {i j : ι} {a : A} {v w : V}
    (hi : claim i = some (a, v)) (hj : claim j = some (a, w)) : i = j :=
  Option.some.inj ((h.claimed i a v hi).1.symm.trans (h.claimed j a w hj).1)

variable [DecidableEq A] [DecidableEq ι]

/-- A free cell is taken over as it is. -/
theorem lock (h : Owned good cells holder claim) {i : ι} {a : A} (hi : claim i = none)
    (ha : holder a = none) :
    Owned good cells (Function.update holder a (some i))
      (Function.update claim i (some (a, cells a))) := by
  refine ⟨fun b j hb ↦ ?_, fun j b v hj ↦ ?_, fun b hb ↦ ?_⟩
  · by_cases hba : b = a
    · subst hba
      rw [Function.update_self] at hb
      obtain rfl := Option.some.inj hb
      exact ⟨cells b, Function.update_self ..⟩
    · rw [Function.update_of_ne hba] at hb
      obtain ⟨v, hv⟩ := h.held b j hb
      have hne : j ≠ i := fun he ↦ by rw [he, hi] at hv; cases hv
      exact ⟨v, (Function.update_of_ne hne ..).trans hv⟩
  · by_cases hji : j = i
    · subst hji
      rw [Function.update_self] at hj
      obtain ⟨rfl, rfl⟩ := Prod.mk.inj (Option.some.inj hj)
      exact ⟨Function.update_self .., rfl⟩
    · rw [Function.update_of_ne hji] at hj
      have hcl := h.claimed j b v hj
      have hne : b ≠ a := fun he ↦ by rw [he, ha] at hcl; cases hcl.1
      exact ⟨(Function.update_of_ne hne ..).trans hcl.1, hcl.2⟩
  · have hne : b ≠ a := fun he ↦ by rw [he, Function.update_self] at hb; cases hb
    rw [Function.update_of_ne hne] at hb
    exact h.free b hb

/-- Its holder may store anything in it. -/
theorem store (h : Owned good cells holder claim) {i : ι} {a : A} {v : V}
    (hi : claim i = some (a, v)) (w : V) :
    Owned good (Function.update cells a w) holder (Function.update claim i (some (a, w))) := by
  have hheld := (h.claimed i a v hi).1
  refine ⟨fun b j hb ↦ ?_, fun j b u hj ↦ ?_, fun b hb ↦ ?_⟩
  · by_cases hji : j = i
    · subst hji
      obtain ⟨u, hu⟩ := h.held b j hb
      obtain ⟨rfl, rfl⟩ := Prod.mk.inj (Option.some.inj (hu.symm.trans hi))
      exact ⟨w, Function.update_self ..⟩
    · rw [Function.update_of_ne hji]
      exact h.held b j hb
  · by_cases hji : j = i
    · subst hji
      rw [Function.update_self] at hj
      obtain ⟨rfl, rfl⟩ := Prod.mk.inj (Option.some.inj hj)
      exact ⟨hheld, Function.update_self ..⟩
    · rw [Function.update_of_ne hji] at hj
      have hne : b ≠ a := fun he ↦ hji (h.unique (he ▸ hj) hi)
      rw [Function.update_of_ne hne]
      exact h.claimed j b u hj
  · have hne : b ≠ a := fun he ↦ by rw [he, hheld] at hb; cases hb
    rw [Function.update_of_ne hne]
    exact h.free b hb

/-- It is given back when its value is good. -/
theorem unlock (h : Owned good cells holder claim) {i : ι} {a : A} {v : V}
    (hi : claim i = some (a, v)) (hv : good v) :
    Owned good cells (Function.update holder a none) (Function.update claim i none) := by
  refine ⟨fun b j hb ↦ ?_, fun j b u hj ↦ ?_, fun b hb ↦ ?_⟩
  · have hne : b ≠ a := fun he ↦ by rw [he, Function.update_self] at hb; cases hb
    rw [Function.update_of_ne hne] at hb
    obtain ⟨u, hu⟩ := h.held b j hb
    have hji : j ≠ i := by
      intro he
      subst he
      exact hne (Prod.mk.inj (Option.some.inj (hu.symm.trans hi))).1
    exact ⟨u, (Function.update_of_ne hji ..).trans hu⟩
  · have hji : j ≠ i := fun he ↦ by rw [he, Function.update_self] at hj; cases hj
    rw [Function.update_of_ne hji] at hj
    have hne : b ≠ a := fun he ↦ hji (h.unique (he ▸ hj) hi)
    rw [Function.update_of_ne hne]
    exact h.claimed j b u hj
  · by_cases hba : b = a
    · subst hba
      rw [(h.claimed i b v hi).2]
      exact hv
    · rw [Function.update_of_ne hba] at hb
      exact h.free b hb

end Owned

end Interaction
