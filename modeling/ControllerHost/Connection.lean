import ControllerHost.Path

/-!
# Connections

A host gives each of its controller connections a number. This file fixes the type of that number
and what can go wrong on a connection.

- `ConnectionId`, `ConnectionId.index?`: a connection's number and its place in a table.
- `LoadError`, `DispatchError`: the errors of loading and of calling, with their texts and the
  status codes that foreign hosts are given.
-/

namespace ControllerHost

/-- The number that a host gives to a connection. -/
abbrev ConnectionId := Int32

namespace ConnectionId

/-- The place of a connection in a table of `capacity` places, if it has one there. -/
def index? (id : ConnectionId) (capacity : Nat) : Option Nat :=
  if 0 ≤ id.toInt ∧ id.toInt < capacity then some id.toInt.toNat else none

/-- The connection at a place of a table, or the last connection there can be. -/
def ofIndex (index : Nat) : ConnectionId :=
  if index < 0x80000000 then Int32.ofNat index else 0x7FFFFFFF

/-- A connection has a place exactly if its number is one. -/
theorem index?_eq_some_iff {id : ConnectionId} {capacity index : Nat} :
    id.index? capacity = some index ↔ id.toInt = index ∧ index < capacity := by
  unfold index?
  split
  · simp only [Option.some.injEq]
    omega
  · simp only [reduceCtorEq, false_iff]
    omega

theorem lt_of_index? {id : ConnectionId} {capacity index : Nat}
    (hindex : id.index? capacity = some index) : index < 0x80000000 := by
  have hbound := id.toInt_lt
  rw [(index?_eq_some_iff.1 hindex).1] at hbound
  omega

theorem toInt_ofIndex {index : Nat} (hindex : index < 0x80000000) :
    (ofIndex index).toInt = index := by
  rw [ofIndex, if_pos hindex, Int32.toInt_ofNat_of_lt hindex]

theorem ofIndex_of_index? {id : ConnectionId} {capacity index : Nat}
    (hindex : id.index? capacity = some index) : ofIndex index = id := by
  apply Int32.toInt_inj.1
  rw [toInt_ofIndex (lt_of_index? hindex), (index?_eq_some_iff.1 hindex).1]

/-- Two connections at one place are the same. -/
theorem eq_of_index? {conn other : ConnectionId} {capacity place : Nat}
    (hconn : conn.index? capacity = some place) (hother : other.index? capacity = some place) :
    conn = other :=
  (ofIndex_of_index? hconn).symm.trans (ofIndex_of_index? hother)

theorem index?_ofIndex {capacity index : Nat} (hindex : index < 0x80000000)
    (hcapacity : index < capacity) : (ofIndex index).index? capacity = some index :=
  index?_eq_some_iff.2 ⟨toInt_ofIndex hindex, hcapacity⟩

/-- The decimal digits of a connection's number. -/
def text (id : ConnectionId) : String := toString id.toInt

end ConnectionId

/-- Status codes for foreign hosts. -/
inductive Status where
  /-- All went well. -/
  | ok
  /-- The library could not be opened. -/
  | libraryNotFound
  /-- The entry point could not be found. -/
  | symbolNotFound
  /-- A connection or an argument is not valid. -/
  | invalidArgument
  /-- Nothing is loaded on the connection. -/
  | notLoaded
deriving DecidableEq, Repr

/-- The number of a status. -/
def Status.code : Status → Nat
  | ok => 0
  | libraryNotFound => 1
  | symbolNotFound => 2
  | invalidArgument => 3
  | notLoaded => 4

/-- A connection that a table has no place for. -/
structure UnknownConnection where
  /-- The connection. -/
  id : ConnectionId
  /-- The number of places. -/
  capacity : Nat
deriving DecidableEq

/-- The text about a connection that a table has no place for. -/
def UnknownConnection.message (unknown : UnknownConnection) : String :=
  s!"connection id {unknown.id.text} is outside 0..{unknown.capacity}"

/-- Why a controller is not loaded. -/
inductive LoadError where
  /-- The table has no such connection. -/
  | unknownConnection (unknown : UnknownConnection)
  /-- An argument is of no use. -/
  | invalidArgument (reason : String)
  /-- The library cannot be copied or opened. -/
  | libraryNotFound (path : Path) (reason : String)
  /-- The library does not export the entry point. -/
  | symbolNotFound (path : Path) (symbol reason : String)
deriving DecidableEq

namespace LoadError

/-- The text of a load error. -/
def message : LoadError → String
  | unknownConnection unknown => unknown.message
  | invalidArgument reason => s!"invalid argument: {reason}"
  | libraryNotFound path reason => s!"failed to load library {path.shown}: {reason}"
  | symbolNotFound path symbol reason =>
    s!"failed to get function {symbol} from {path.shown}: {reason}"

/-- The status of a load error. -/
def status : LoadError → Status
  | unknownConnection _ | invalidArgument _ => .invalidArgument
  | libraryNotFound .. => .libraryNotFound
  | symbolNotFound .. => .symbolNotFound

end LoadError

/-- Why a controller is not called. -/
inductive DispatchError where
  /-- The table has no such connection. -/
  | unknownConnection (unknown : UnknownConnection)
  /-- Nothing is loaded on the connection. -/
  | notLoaded (id : ConnectionId)
  /-- A buffer has no storage. -/
  | emptyBuffer (name : String)
deriving DecidableEq

namespace DispatchError

/-- The text of a dispatch error. -/
def message : DispatchError → String
  | unknownConnection unknown => unknown.message
  | notLoaded id => s!"no controller loaded on connection {id.text}"
  | emptyBuffer name => s!"{name} buffer is empty"

/-- The status of a dispatch error. -/
def status : DispatchError → Status
  | unknownConnection _ | emptyBuffer _ => .invalidArgument
  | notLoaded _ => .notLoaded

end DispatchError

end ControllerHost
