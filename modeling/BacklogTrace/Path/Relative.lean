import BacklogTrace.Path.Basic

/-!
Contract: the rest of a path below another.

A path lies below a base when the components of the base begin its components.
The rest keeps the spelling between its own first and last component; what is
idle around it is dropped. A base without components leaves the whole path.

Owns: `Path.relativeTo?`.

Does not own: what happens to a path that is not below a base, which each caller
decides.
-/

namespace BacklogTrace.Path

/-- The segments that remain after the given components have been taken. -/
def takeComponents : List Bytes → List Component → Option (List Bytes)
  | segments, [] => some segments
  | [], _ :: _ => none
  | segment :: segments, component :: components =>
      if isIdle segment then
        takeComponents segments (component :: components)
      else if componentOf segment = component then
        takeComponents segments components
      else
        none

/-- The spelling of segments that begin no path, without what is idle at either
end. -/
def restOf (segments : List Bytes) : Path :=
  ⟨spell (dropIdleEnd (segments.dropWhile isIdle))⟩

def relativeTo? (base path : Path) : Option Path :=
  match base.components with
  | [] => some path.trimEnd
  | first :: others =>
      match path.anchor.component? with
      | none => (takeComponents path.segments (first :: others)).map restOf
      | some component =>
          if component = first then
            (takeComponents path.segments others).map restOf
          else
            none

/-- The rest of a path below a base, or the path itself. -/
def relativeTo (base path : Path) : Path :=
  (relativeTo? base path).getD path

end BacklogTrace.Path
