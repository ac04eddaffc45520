import BacklogTrace.Glob.Compiled
import BacklogTrace.Walk

/-!
Contract: the search with which programs run.

Owns: the instance of `FileSearch`.

Does not own: the walk (`Walk`), patterns (`Glob`).
-/

namespace BacklogTrace

instance FileSearch.standard : FileSearch where
  walk := Walk.items
  isPattern text := (Glob.readPattern? text).isSome
  compile? := Glob.compile?

end BacklogTrace
