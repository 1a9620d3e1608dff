import ControllerHost.Controller.Buffers

/-!
# Controllers

A controller is a routine over the five call buffers. What else it reads and writes is state that
controllers keep between calls, such as the static variables of the library that it lives in.
Nothing more is known of it than that it is handed pointers, so that it cannot change the length of
a buffer.

- `Routine`: a controller over some state.
- `Routine.IsPure`: a controller whose calls depend on their buffers alone.
-/

namespace ControllerHost

/-- A controller that keeps its state in `S`. -/
structure Routine (S : Type) where
  /-- What one call makes of the state and of the buffers. -/
  run : S → CallBuffers → S × CallBuffers
  /-- No call changes the length of a buffer. -/
  keepsLengths (state : S) (buffers : CallBuffers) : buffers.KeepsLengths (run state buffers).2

/-- What calls leave in the buffers depends on what was in the buffers, and on nothing else. -/
def Routine.IsPure {S : Type} (routine : Routine S) : Prop :=
  ∀ state other buffers, (routine.run state buffers).2 = (routine.run other buffers).2

end ControllerHost
