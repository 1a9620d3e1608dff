/-!
# Log records

A log record has a severity, the part of the host that it comes from, a message and named fields.

- `Log.Severity`: how important a record is, the most important first.
- `Log.Source`: the parts of the host that write records.
- `Log.Record`.
-/

namespace ControllerHost.Log

/-- How important a record is. -/
inductive Severity where
  /-- Something went wrong that nobody handles. -/
  | error
  /-- Something went wrong that the caller hears of. -/
  | warn
  /-- Controllers come and go. -/
  | info
  /-- How they come and go. -/
  | debug
  /-- Every call. -/
  | trace
deriving DecidableEq, Repr

namespace Severity

/-- The severities, the most important first. -/
def all : List Severity := [error, warn, info, debug, trace]

/-- The rank of a severity, from 1 for the most important on. -/
def rank : Severity → Nat
  | error => 1
  | warn => 2
  | info => 3
  | debug => 4
  | trace => 5

/-- The name of a severity in capitals. -/
def name : Severity → String
  | error => "ERROR"
  | warn => "WARN"
  | info => "INFO"
  | debug => "DEBUG"
  | trace => "TRACE"

end Severity

/-- The parts of the host that write records. -/
inductive Source where
  /-- The table of connections. -/
  | registry
  /-- The forwarding of calls. -/
  | dispatch
  /-- The making of private copies. -/
  | isolation
  /-- The platform's loader. -/
  | platform
  /-- The interface for foreign hosts. -/
  | hostInterface
deriving DecidableEq, Repr

/-- The target under which a part of the host writes. -/
def Source.target : Source → String
  | .registry => "discon_wrapper::registry"
  | .dispatch => "discon_wrapper::registry::dispatch"
  | .isolation => "discon_wrapper::isolation"
  | .platform => "discon_wrapper::loader::native"
  | .hostInterface => "discon_wrapper::ffi"

/-- A log record. -/
structure Record where
  /-- How important it is. -/
  severity : Severity
  /-- Where it comes from. -/
  source : Source
  /-- What it says. -/
  message : String
  /-- Named details, in order. -/
  fields : List (String × String) := []
deriving DecidableEq, Repr

end ControllerHost.Log
