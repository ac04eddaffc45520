import BacklogTrace.Backlog.Item

/-!
Contract: what a scan finds.

A record says which backlog items one test method traces to. The link of the
file is opaque here: nothing in this project reads it back.

Owns: `TestMethod`, `Record`.

Does not own: how a link is made (`Location`), how records are written
(`Report`).
-/

namespace BacklogTrace

structure TestMethod where
  fileUrl : Text
  className : Text
  method : Text
deriving DecidableEq, Repr

/-- A test method together with the backlog items that it traces to. -/
structure Record where
  test : TestMethod
  items : List Item
deriving DecidableEq, Repr

end BacklogTrace
