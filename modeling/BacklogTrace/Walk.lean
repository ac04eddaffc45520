import BacklogTrace.FileSearch.Basic
import BacklogTrace.Ignore.Stack

/-!
Contract: a walk through what is below a root and not ignored.

A walk goes through every directory below its root, through links too, and
passes over ignored entries together with all that is in them. The root itself
is never ignored. A link that leads nowhere fails, and so does one that leads
back to a directory that is being walked; that is what makes walks end. A
directory is entered at most as deep as `depthLimit`, and no walk is that deep
(`Proofs.Walk`): a link entered adds a directory to those being walked, and between
two links a walk only goes further down.

Only the ignore files of the tree and of the directories above it count; those
that a user keeps for all trees are left out.

Owns: `Walk.items`.

Does not own: which of the files are scanned, and in which order (`Harvest`).
-/

namespace BacklogTrace.Walk

open Ignore (Stack Level)

def pathOfPlace (place : Place) : Path :=
  ⟨Path.slash :: Path.spell place⟩

/-- The places above a place, the nearest first. -/
def placesAbove (place : Place) : List Place :=
  (List.range place.length).reverse.map fun length => place.take length

/-- How many names the longest place has. -/
def longestPlace (fileSystem : FileSystem) : Nat :=
  (fileSystem.entries.map fun entry => entry.1.length).max?.getD 0

/-- How deep a walk can go. -/
def depthLimit (fileSystem : FileSystem) : Nat :=
  (fileSystem.entries.length + 1) * (longestPlace fileSystem + 1)

def isLink : Node → Bool
  | .link _ => true
  | .regular _ | .directory => false

/-- Where an entry of a directory leads: a link somewhere else, if anywhere. -/
def childPlace? (fileSystem : FileSystem) (path : Path) (place : Place) (child : Bytes × Node) :
    Option Place :=
  if isLink child.2 then fileSystem.place? (path.join ⟨child.1⟩) else some (place ++ [child.1])

/-- What a walk yields at an entry of a directory, given how it goes on in a directory
and the directories being walked. -/
def itemsOfChild (fileSystem : FileSystem) (enter : Path → Place → List Item) (stack : Stack)
    (walking : List Place) (path : Path) (place : Place) (child : Bytes × Node) : List Item :=
  let childPath := path.join ⟨child.1⟩
  match childPlace? fileSystem path place child with
  | none => [.failed]
  | some childPlace =>
      match fileSystem.node? childPlace with
      | some .directory =>
          if isLink child.2 && walking.contains childPlace then
            [.failed]
          else if stack.ignores childPath true then
            []
          else
            .entry childPath false :: enter childPath childPlace
      | some (.regular _) =>
          if stack.ignores childPath false then [] else [.entry childPath true]
      | some (.link _) | none => [.failed]

/-- What a walk yields below a directory. -/
def itemsBelow (fileSystem : FileSystem) :
    Nat → Stack → List Place → Path → Place → List Item
  | 0, _, _, _, _ => []
  | depth + 1, stack, walking, path, place =>
      let enter := fun childPath childPlace =>
        itemsBelow fileSystem depth (stack.push (.read fileSystem childPath))
          (childPlace :: walking) childPath childPlace
      (fileSystem.children place).flatMap
        (itemsOfChild fileSystem enter stack walking path place)

/-- The stack for the entries of the root of a walk. -/
def rootStack (fileSystem : FileSystem) (root : Path) (place : Place) : Stack where
  walked := [.read fileSystem root]
  above := (placesAbove place).map fun parent => .read fileSystem (pathOfPlace parent)
  base := pathOfPlace place
  root := root

def items (fileSystem : FileSystem) (root : Path) : List Item :=
  match fileSystem.place? root with
  | none => [.failed]
  | some place =>
      match fileSystem.node? place with
      | some .directory =>
          .entry root false ::
            itemsBelow fileSystem (depthLimit fileSystem) (rootStack fileSystem root place)
              [place] root place
      | some (.regular _) => [.entry root true]
      | some (.link _) | none => [.failed]

end BacklogTrace.Walk
