import Mathlib.Data.Finset.Basic

/-!
# Owners and what they hold

Each owner holds at most one resource. As long as every live resource has exactly one owner, an
owner can take a resource that is not live, give back the one it holds, or exchange it for another.
-/

namespace Interaction

variable {O B : Type} {held : O → Option B} {live : Finset B} {o : O} {b c : B}

/-- The live resources are those that are held, and no two owners hold the same. -/
structure Holds (held : O → Option B) (live : Finset B) : Prop where
  mem_iff : ∀ b, b ∈ live ↔ ∃ o, held o = some b
  unique : ∀ o o' b, held o = some b → held o' = some b → o = o'

namespace Holds

/-- Nothing is held. -/
theorem empty : Holds (fun _ : O ↦ (none : Option B)) ∅ :=
  ⟨fun b ↦ by simp, fun _ _ _ h ↦ by cases h⟩

/-- What is held is live. -/
theorem mem (h : Holds held live) (ho : held o = some b) : b ∈ live := (h.mem_iff b).mpr ⟨o, ho⟩

/-- Nothing is live once nobody holds anything. -/
theorem eq_empty (h : Holds held live) (hnone : ∀ o, held o = none) : live = ∅ := by
  refine Finset.eq_empty_of_forall_notMem fun b hb ↦ ?_
  obtain ⟨o, ho⟩ := (h.mem_iff b).mp hb
  rw [hnone o] at ho
  cases ho

variable [DecidableEq O] [DecidableEq B]

/-- An owner without a resource takes one that is not live. -/
theorem take (h : Holds held live) (ho : held o = none) (hb : b ∉ live) :
    Holds (Function.update held o (some b)) (insert b live) := by
  have hother {o' : O} {b' : B} (ho' : o' ≠ o) :
      Function.update held o (some b) o' = some b' ↔ held o' = some b' := by
    rw [Function.update_of_ne ho']
  refine ⟨fun b' ↦ ⟨fun hb' ↦ ?_, ?_⟩, fun o₁ o₂ b' h₁ h₂ ↦ ?_⟩
  · rcases Finset.mem_insert.mp hb' with rfl | hb'
    · exact ⟨o, Function.update_self _ _ _⟩
    · obtain ⟨o', ho'⟩ := (h.mem_iff b').mp hb'
      have hne : o' ≠ o := fun heq ↦ by simp [heq, ho] at ho'
      exact ⟨o', (hother hne).mpr ho'⟩
  · rintro ⟨o', ho'⟩
    by_cases hne : o' = o
    · rw [hne, Function.update_self] at ho'
      cases ho'
      exact Finset.mem_insert_self _ _
    · exact Finset.mem_insert_of_mem (h.mem ((hother hne).mp ho'))
  · by_cases hne₁ : o₁ = o <;> by_cases hne₂ : o₂ = o
    · rw [hne₁, hne₂]
    · rw [hne₁, Function.update_self] at h₁
      cases h₁
      exact absurd (h.mem ((hother hne₂).mp h₂)) hb
    · rw [hne₂, Function.update_self] at h₂
      cases h₂
      exact absurd (h.mem ((hother hne₁).mp h₁)) hb
    · exact h.unique o₁ o₂ b' ((hother hne₁).mp h₁) ((hother hne₂).mp h₂)

/-- An owner gives back what it holds. -/
theorem give (h : Holds held live) (ho : held o = some b) :
    Holds (Function.update held o none) (live.erase b) := by
  have hother {o' : O} {b' : B} :
      Function.update held o none o' = some b' ↔ o' ≠ o ∧ held o' = some b' := by
    by_cases ho' : o' = o
    · simp [ho']
    · simp [ho']
  refine ⟨fun b' ↦ ⟨fun hb' ↦ ?_, ?_⟩, fun o₁ o₂ b' h₁ h₂ ↦ ?_⟩
  · obtain ⟨hne, hb'⟩ := Finset.mem_erase.mp hb'
    obtain ⟨o', ho'⟩ := (h.mem_iff b').mp hb'
    refine ⟨o', hother.mpr ⟨fun heq ↦ hne ?_, ho'⟩⟩
    rw [heq, ho] at ho'
    exact (Option.some.inj ho').symm
  · rintro ⟨o', ho'⟩
    obtain ⟨hne, ho'⟩ := hother.mp ho'
    refine Finset.mem_erase.mpr ⟨fun heq ↦ hne ?_, h.mem ho'⟩
    exact h.unique o' o b (heq ▸ ho') ho
  · exact h.unique o₁ o₂ b' (hother.mp h₁).2 (hother.mp h₂).2

/-- An owner takes one that is not live and gives back the one it held. -/
theorem exchange (h : Holds held live) (ho : held o = some b) (hc : c ∉ live) :
    Holds (Function.update held o (some c)) ((insert c live).erase b) := by
  have hne : c ≠ b := fun heq ↦ hc (heq ▸ h.mem ho)
  have htaken := (h.give ho).take (Function.update_self o none held)
    fun hmem ↦ hc (Finset.mem_of_mem_erase hmem)
  rw [Function.update_idem] at htaken
  rwa [Finset.erase_insert_of_ne hne]

end Holds

end Interaction
