import Preconnect.Error

/-!
A place for one failure. The first one offered stays, all others are turned away.
-/
namespace Preconnect

structure FirstFailure where
  kept : Option Failure := none
  deriving DecidableEq

namespace FirstFailure

/-- Keeps the failure if none is kept yet, and tells whether it did. -/
def offer (slot : FirstFailure) (failure : Failure) : FirstFailure × Bool :=
  match slot.kept with
  | none => (⟨some failure⟩, true)
  | some _ => (slot, false)

theorem kept_offer (slot : FirstFailure) (failure : Failure) :
    (slot.offer failure).1.kept = slot.kept.or (some failure) := by
  unfold offer
  split <;> simp [*]

theorem offer_snd (slot : FirstFailure) (failure : Failure) :
    (slot.offer failure).2 = slot.kept.isNone := by
  unfold offer
  split <;> simp [*]

end FirstFailure

end Preconnect
