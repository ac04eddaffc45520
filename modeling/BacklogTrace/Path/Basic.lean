import BacklogTrace.Text.Utf8

/-!
Contract: paths, as they are spelled and as they are read.

A path is a spelling: bytes in which slashes separate names. What it means is
its list of components. Repeated slashes and inner or trailing dots have no
component; a leading slash and a leading dot have one, and two dots always do.
Two paths with the same components may be spelled differently, and an operation
that keeps a part of a path keeps its spelling.

Owns: `Path`, its segments and components, `IsName`, `join`, `parent?`,
`fileName?`, `extension?`, the order of paths, how a path is shown.

Does not own: taking a path relative to another (`Path.Relative`), what a path
leads to (`FileSystem`).
-/

namespace BacklogTrace

/-- A path as it is spelled. -/
structure Path where
  spelling : Bytes
deriving DecidableEq, Repr, Inhabited

namespace Path

def slash : UInt8 := 0x2f

/-- The byte that begins an extension, and the name of a directory itself. -/
def dot : UInt8 := 0x2e

def ofText (text : Text) : Path :=
  ⟨Utf8.encode text⟩

/-- How a path is shown: what is not text in it is replaced. -/
def shown (path : Path) : Text :=
  Utf8.decode path.spelling

def isAbsolute (path : Path) : Bool :=
  path.spelling.head? == some slash

/-- One step of a path. The constructors are in the order of paths. -/
inductive Component where
  /-- The top of the file system. -/
  | top
  /-- The directory from which the path begins. -/
  | here
  /-- The directory above. -/
  | up
  | named (name : Bytes)
deriving DecidableEq, Repr

inductive Anchor where
  /-- With its first name. -/
  | relative
  /-- At the top. -/
  | top
  /-- With a dot. -/
  | here
deriving DecidableEq, Repr

def Anchor.component? : Anchor → Option Component
  | .relative => none
  | .top => some .top
  | .here => some .here

def Anchor.spelling : Anchor → Bytes
  | .relative => []
  | .top => [slash]
  | .here => [dot]

/-- Splits the spelling of a path into where it begins and what follows. -/
def anchored : Bytes → Anchor × Bytes
  | [] => (.relative, [])
  | first :: rest =>
      if first = slash then
        (.top, rest)
      else if first = dot ∧ (rest.isEmpty ∨ rest.head? = some slash) then
        (.here, rest)
      else
        (.relative, first :: rest)

def anchor (path : Path) : Anchor :=
  (anchored path.spelling).1

/-- The parts between the slashes of what follows the beginning of a path. -/
def segments (path : Path) : List Bytes :=
  Sequence.splitOn slash (anchored path.spelling).2

/-- Whether a segment has no component: nothing, or a dot. -/
def isIdle (segment : Bytes) : Bool :=
  segment.isEmpty || segment == [dot]

/-- A name that an entry of a directory can have. -/
structure IsName (name : Bytes) : Prop where
  noSlash : slash ∉ name
  busy : isIdle name = false
  notUp : name ≠ [dot, dot]

instance (name : Bytes) : Decidable (IsName name) :=
  decidable_of_iff (slash ∉ name ∧ isIdle name = false ∧ name ≠ [dot, dot])
    ⟨fun ⟨noSlash, busy, notUp⟩ => ⟨noSlash, busy, notUp⟩,
      fun ⟨noSlash, busy, notUp⟩ => ⟨noSlash, busy, notUp⟩⟩

def componentOf (segment : Bytes) : Component :=
  if segment = [dot, dot] then .up else .named segment

def componentsOf (segments : List Bytes) : List Component :=
  (segments.filter fun segment => !isIdle segment).map componentOf

/-- The steps that a path takes, in order. -/
def components (path : Path) : List Component :=
  path.anchor.component?.toList ++ componentsOf path.segments

/-- The path that a spelling continues. An absolute continuation replaces the
path, and a slash comes between only where none is. -/
def join (path continuation : Path) : Path :=
  if continuation.isAbsolute then
    continuation
  else if path.spelling.isEmpty || path.spelling.getLast? == some slash then
    ⟨path.spelling ++ continuation.spelling⟩
  else
    ⟨path.spelling ++ slash :: continuation.spelling⟩

def dropIdleEnd (segments : List Bytes) : List Bytes :=
  Sequence.dropEndWhile isIdle segments

def spell (segments : List Bytes) : Bytes :=
  [slash].intercalate segments

/-- The path without what is idle at its end. -/
def trimEnd (path : Path) : Path :=
  ⟨path.anchor.spelling ++ spell (dropIdleEnd path.segments)⟩

/-- The path without its last component, unless it has none or is the top. -/
def parent? (path : Path) : Option Path :=
  match dropIdleEnd path.segments with
  | [] =>
      match path.anchor with
      | .here => some ⟨[]⟩
      | .relative | .top => none
  | segment :: segments =>
      some ⟨path.anchor.spelling ++
        spell (dropIdleEnd ((segment :: segments).dropLast))⟩

/-- The name that a path ends in. -/
def fileName? (path : Path) : Option Bytes :=
  match path.components.getLast? with
  | some (.named name) => some name
  | _ => none

/-- What follows the last dot of a name. A dot that begins the name begins no
extension. -/
def extensionOf? (name : Bytes) : Option Bytes :=
  match Sequence.cutLast? (· == dot) name with
  | some (_ :: _, _, extension) => some extension
  | _ => none

def extension? (path : Path) : Option Bytes :=
  path.fileName?.bind extensionOf?

def Component.rank : Component → Nat
  | .top => 0
  | .here => 1
  | .up => 2
  | .named _ => 3

def Component.nameBytes : Component → Bytes
  | .named name => name
  | .top | .here | .up => []

/-- Whether one list comes before another or equals it, by the first place where
they differ. -/
def lexicographicLe {α : Type} (lt : α → α → Bool) : List α → List α → Bool
  | [], _ => true
  | _ :: _, [] => false
  | left :: lefts, right :: rights =>
      lt left right || (!lt right left && lexicographicLe lt lefts rights)

/-- The order of components: by kind, then by the bytes of the name. -/
def Component.lt (left right : Component) : Bool :=
  decide (left.rank < right.rank) ||
    (left.rank == right.rank && !lexicographicLe (fun (l r : UInt8) => decide (l < r))
      right.nameBytes left.nameBytes)

def le (left right : Path) : Bool :=
  lexicographicLe Component.lt left.components right.components

end Path

end BacklogTrace
