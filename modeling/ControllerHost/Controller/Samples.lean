import ControllerHost.Controller.Routine

/-!
# Two small controllers

Controllers to try things out with.

- `Routine.mark`: writes a number, and needs no state.
- `Routine.tally`: counts its calls and writes their number.
-/

namespace ControllerHost.Routine

/-- Writes a number to the first swap value, and reports no failure. -/
def mark {S : Type} (value : Nat) : Routine S where
  run state buffers :=
    (state, { buffers with swap := buffers.swap.set 0 (Single.ofNat value), fail := 0 })
  keepsLengths state buffers := by simp [CallBuffers.KeepsLengths]

/-- Counts its calls, writes their number to the first swap value, and reports no failure. -/
def tally : Routine Nat where
  run calls buffers :=
    (calls + 1,
      { buffers with swap := buffers.swap.set 0 (Single.ofNat (calls + 1)), fail := 0 })
  keepsLengths calls buffers := by simp [CallBuffers.KeepsLengths]

/-- What is written does not depend on any state. -/
theorem isPure_mark {S : Type} (value : Nat) : (mark value : Routine S).IsPure :=
  fun _ _ _ => rfl

end ControllerHost.Routine
