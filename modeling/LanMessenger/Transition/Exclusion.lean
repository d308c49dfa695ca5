import Mathlib.Data.Option.Basic

/-! A flag that says whether something has a holder, of which there is one at most. -/

namespace Transition

variable {ι : Type}

structure Exclusive (holds : ι → Prop) (active : Bool) : Prop where
  unique : ∀ left right, holds left → holds right → left = right
  active_iff : active = true ↔ ∃ holder, holds holder

namespace Exclusive

variable {holds later : ι → Prop} {active after : Bool}

theorem free (none : ∀ holder, ¬ holds holder) : Exclusive holds false :=
  ⟨fun left _ held => absurd held (none left), by simp [none]⟩

theorem congr (exclusive : Exclusive holds active) (same : ∀ holder, later holder ↔ holds holder) :
    Exclusive later active := by
  refine ⟨fun left right leftHolds rightHolds => ?_, ?_⟩
  · exact exclusive.unique left right ((same left).mp leftHolds) ((same right).mp rightHolds)
  · simp only [same, exclusive.active_iff]

theorem not_holds (exclusive : Exclusive holds active) (idle : active = false) (holder : ι) : ¬ holds holder := by
  intro held
  have busy := exclusive.active_iff.mpr ⟨holder, held⟩
  rw [idle] at busy
  cases busy

theorem claim (exclusive : Exclusive holds active) (idle : active = false) (claimer : ι)
    (taken : ∀ holder, later holder ↔ holds holder ∨ holder = claimer) : Exclusive later true := by
  have only : ∀ holder, later holder → holder = claimer := fun holder held =>
    ((taken holder).mp held).resolve_left (exclusive.not_holds idle holder)
  refine ⟨fun left right leftHolds rightHolds => ?_, ?_⟩
  · rw [only left leftHolds, only right rightHolds]
  · exact iff_of_true rfl ⟨claimer, (taken claimer).mpr (Or.inr rfl)⟩

theorem release (exclusive : Exclusive holds active) (leaver : ι)
    (left : ∀ holder, later holder ↔ holds holder ∧ holder ≠ leaver)
    (falls : after = true ↔ active = true ∧ ¬ holds leaver) : Exclusive later after := by
  refine ⟨fun first second firstHolds secondHolds => ?_, ?_⟩
  · exact exclusive.unique first second ((left first).mp firstHolds).1 ((left second).mp secondHolds).1
  · rw [falls, exclusive.active_iff]
    constructor
    · rintro ⟨⟨holder, held⟩, other⟩
      refine ⟨holder, (left holder).mpr ⟨held, ?_⟩⟩
      rintro rfl
      exact other held
    · rintro ⟨holder, held⟩
      obtain ⟨held, different⟩ := (left holder).mp held
      exact ⟨⟨holder, held⟩, fun leaverHeld => different (exclusive.unique _ _ held leaverHeld)⟩

end Exclusive

end Transition
