import BacklogTrace.Backlog.Record

/-!
Contract: where a scan stands in the structure of a file, and which backlog
items wait for something to come.

Items found before the first class wait for every test method of the file.
Items found inside a class wait for the next method signature alone. A phase
that holds waiting method items is a phase of its own, so a class without any
is told from one whose items have been used.

Owns: `Phase` and its two transitions, `enterClass` and `addItems`.

Does not own: what a method signature does to a phase (`Scan.State`).
-/

namespace BacklogTrace

/-- Where a scan stands between two lines. -/
inductive Phase where
  /-- No class yet, and nothing waits. -/
  | outside
  /-- No class yet, and items wait for the first one. -/
  | pendingClass (classItems : List Item)
  | inClass (className : Text) (classItems : List Item)
  /-- In a class, and items wait for the next method. -/
  | pendingMethod (className : Text) (classItems methodItems : List Item)
deriving DecidableEq, Repr

namespace Phase

def className? : Phase → Option Text
  | .inClass className _ | .pendingMethod className _ _ => some className
  | .outside | .pendingClass _ => none

/-- The items that wait for every test method. -/
def classItems : Phase → List Item
  | .outside => []
  | .pendingClass items | .inClass _ items | .pendingMethod _ items _ => items

/-- The items that wait for the next method. -/
def methodItems : Phase → List Item
  | .pendingMethod _ _ items => items
  | .outside | .pendingClass _ | .inClass _ _ => []

/-- A class opens: the items of the class level stay, those of a method are
dropped. -/
def enterClass (phase : Phase) (className : Text) : Phase :=
  .inClass className phase.classItems

def addItems (items : List Item) : Phase → Phase
  | .outside => .pendingClass items
  | .pendingClass classItems => .pendingClass (classItems ++ items)
  | .inClass className classItems => .pendingMethod className classItems items
  | .pendingMethod className classItems methodItems =>
      .pendingMethod className classItems (methodItems ++ items)

/-- The class in which a method signature would use waiting items, if there is
one. -/
def awaitingClass? : Phase → Option Text
  | .inClass className classItems => if classItems.isEmpty then none else some className
  | .pendingMethod className _ _ => some className
  | .outside | .pendingClass _ => none

@[simp] theorem className?_enterClass (phase : Phase) (className : Text) :
    (phase.enterClass className).className? = some className := rfl

@[simp] theorem classItems_enterClass (phase : Phase) (className : Text) :
    (phase.enterClass className).classItems = phase.classItems := rfl

@[simp] theorem methodItems_enterClass (phase : Phase) (className : Text) :
    (phase.enterClass className).methodItems = [] := rfl

@[simp] theorem className?_addItems (phase : Phase) (items : List Item) :
    (phase.addItems items).className? = phase.className? := by
  cases phase <;> rfl

end Phase

end BacklogTrace
