import ControllerHost.Text.Utf8

/-!
# Paths

A path is any byte string. Most questions about it are questions about its components, for which
repeated separators, inner single dots and a trailing separator do not count.

- `Path.components`: the components of a path.
- `Path.Same`: two paths with the same components.
- `Path.fileName?`, `Path.extension?`, `Path.parent?`: parts of a path.
- `Path.join`: a path taken relative to another one.
-/

namespace ControllerHost

/-- A path: any byte string. -/
structure Path where
  /-- The bytes of the path as they were given. -/
  bytes : Bytes
deriving DecidableEq, Inhabited

namespace Path

/-- The path separator. -/
def separator : UInt8 := 0x2F

/-- The dot, alone the name of a directory in itself. -/
def dot : UInt8 := 0x2E

/-- The path whose bytes are the UTF-8 form of a text. -/
def ofText (text : String) : Path := ⟨Bytes.ofText text⟩

/-- A path as messages show it. -/
def shown (path : Path) : String := Utf8.lossy path.bytes

/-- What stands between the separators of a path. -/
inductive Component where
  /-- The separator that an absolute path begins with. -/
  | root
  /-- A single dot in front. -/
  | here
  /-- Two dots. -/
  | up
  /-- Anything else. -/
  | name (piece : Bytes)
deriving DecidableEq

/-- Whether the path begins at the root. -/
def isAbsolute (path : Path) : Bool := path.bytes.head? == some separator

/-- The component that a piece between separators stands for, if any. -/
def Component.ofPiece? (piece : Bytes) : Option Component :=
  if piece = [] ∨ piece = [dot] then none
  else if piece = [dot, dot] then some .up
  else some (.name piece)

/-- The components of a path. A single dot counts only as the first piece of a relative path. -/
def components (path : Path) : List Component :=
  let pieces := Bytes.split separator path.bytes
  -- `./name` is not `name` to a search, so a dot in front counts
  let front : List Component :=
    if path.isAbsolute then [.root] else if pieces.head? = some [dot] then [.here] else []
  front ++ pieces.filterMap Component.ofPiece?

/-- Two paths are the same when their components are. -/
def Same (p q : Path) : Prop := p.components = q.components

instance (p q : Path) : Decidable (p.Same q) := inferInstanceAs (Decidable (_ = _))

/-- Sameness is an equivalence. -/
theorem same_equivalence : Equivalence Same :=
  ⟨fun _ => rfl, fun h => Eq.symm h, fun h g => Eq.trans h g⟩

/-- The last component of a path, if it is a name. -/
def fileName? (path : Path) : Option Bytes :=
  match path.components.getLast? with
  | some (.name name) => some name
  | _ => none

/-- The bytes after the last dot of a name, unless there is no dot or only one in front. -/
def extensionOf? (name : Bytes) : Option Bytes :=
  let extension := (name.reverse.takeWhile (· != dot)).reverse
  if extension.length + 1 < name.length then some extension else none

/-- The part of a path's file name after its last dot. -/
def extension? (path : Path) : Option Bytes := path.fileName?.bind extensionOf?

/-- The bytes of a component. -/
def Component.bytes : Component → Bytes
  | .root => []
  | .here => [dot]
  | .up => [dot, dot]
  | .name piece => piece

/-- The path with the given components. -/
def ofComponents : List Component → Path
  | [.root] => ⟨[separator]⟩
  | components => ⟨[separator].intercalate (components.map Component.bytes)⟩

/-- The path without its last component, unless that is the root or there is none. -/
def parent? (path : Path) : Option Path :=
  match path.components.getLast? with
  | none | some .root => none
  | some _ => some (ofComponents path.components.dropLast)

/-- The path `relative` as seen from `base`. -/
def join (base relative : Path) : Path :=
  if relative.isAbsolute ∨ base.bytes = [] then relative
  else if base.bytes.getLast? = some separator then ⟨base.bytes ++ relative.bytes⟩
  else ⟨base.bytes ++ separator :: relative.bytes⟩

end Path

end ControllerHost
