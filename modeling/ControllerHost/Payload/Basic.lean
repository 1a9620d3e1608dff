import ControllerHost.Controller.Buffers

/-!
# Payloads

A payload carries the buffers of one controller call between the simulation and the process that
hosts the controller, and optionally the input file that the controller is to read there.

- `Payload`: the buffers, the file's contents and where they belong.
- `Payload.zeroed`: a payload of given sizes.
- `Payload.eqv`: equality, with swap values compared as numbers.
-/

namespace ControllerHost

/-- The buffers of one controller call, with an optional input file. -/
structure Payload where
  /-- What a controller sees and changes. -/
  call : CallBuffers := {}
  /-- The contents of the controller's input file, when it is shipped along. -/
  fileContent : Bytes := []
  /-- Where the receiving side stores the contents. -/
  serverFilePath : Bytes := []
deriving DecidableEq, Inhabited

namespace Payload

/-- Zeroes: `swapLength` of them in the swap array and `textLength` in each of the three texts. -/
def zeroed (swapLength textLength : Nat) : Payload where
  call :=
    { swap := List.replicate swapLength Single.zero
      inFile := List.replicate textLength 0
      outName := List.replicate textLength 0
      msg := List.replicate textLength 0 }

/-- The payload with `value` at `index` of its swap array, if there is such an index. -/
def poke (payload : Payload) (index : Nat) (value : Single) : Payload :=
  { payload with call := { payload.call with swap := payload.call.swap.set index value } }

/-- Whether two payloads are equal, their swap values as numbers: NaN differs from itself and the
zeros agree. -/
def eqv (p q : Payload) : Bool :=
  p.call.swap.length == q.call.swap.length
    && (p.call.swap.zip q.call.swap).all (fun (x, y) => x.eqv y)
    && p.call.fail == q.call.fail
    && p.call.inFile == q.call.inFile
    && p.call.outName == q.call.outName
    && p.call.msg == q.call.msg
    && p.fileContent == q.fileContent
    && p.serverFilePath == q.serverFilePath

end Payload

end ControllerHost
