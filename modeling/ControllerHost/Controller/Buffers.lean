import ControllerHost.Bytes
import ControllerHost.Single.Basic

/-!
# Call buffers

A controller is called with five buffers and changes them in place. It never sees their storage
beyond these lengths, and it cannot change a length.

- `CallBuffers`: the five buffers.
- `CallBuffers.firstEmpty?`: the first buffer that a controller could not be handed.
- `CallBuffers.KeepsLengths`: other contents of the same length.
-/

namespace ControllerHost

/-- The buffers of one controller call. -/
structure CallBuffers where
  /-- The swap array, `avrSWAP`. -/
  swap : List Single := []
  /-- The failure flag, `aviFAIL`. -/
  fail : Int32 := 0
  /-- The name of the controller's input file, `accINFILE`. -/
  inFile : Bytes := []
  /-- The stem of the controller's output files, `avcOUTNAME`. -/
  outName : Bytes := []
  /-- The controller's message, `avcMSG`. -/
  msg : Bytes := []
deriving DecidableEq, Inhabited

namespace CallBuffers

/-- The first buffer without storage, in the order in which a controller takes them. -/
def firstEmpty? (buffers : CallBuffers) : Option String :=
  if buffers.swap = [] then some "avrSWAP"
  else if buffers.inFile = [] then some "accINFILE"
  else if buffers.outName = [] then some "avcOUTNAME"
  else if buffers.msg = [] then some "avcMSG"
  else none

/-- The buffers `after` have the lengths of the buffers `before`. -/
def KeepsLengths (before after : CallBuffers) : Prop :=
  after.swap.length = before.swap.length ∧ after.inFile.length = before.inFile.length
    ∧ after.outName.length = before.outName.length ∧ after.msg.length = before.msg.length

end CallBuffers

end ControllerHost
