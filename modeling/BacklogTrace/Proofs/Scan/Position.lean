import BacklogTrace.Proofs.Scan.Step

/-!
Contract: what the lines of a file mean by their places alone.

A scan carries a state from line to line. Here nothing is carried: a class, an
item, a signature and a marker stand at the places of their lines, and whether
an item or a marker reaches a method is a matter of what stands between the two
places. `Scanner.attributed` lists the records of a file in these terms.

The part of the file before a place determines what is pending there. The
lemmas on `n + 1` lines say how each notion changes with one more line.

Owns: `Scanner.lineAt?` and the notions on places, `Scanner.attributed`.

Does not own: that a scan finds these records (`Proofs.Scan.Attribution`).
-/

namespace BacklogTrace.Scanner

/-- The line at a place of a file, without its ending. Nothing stands at the
place of a blank line. -/
def lineAt? (lines : List Text) (place : Nat) : Option Text :=
  (lines[place]?.map dropLineEnding).filter fun line => !Text.isAllBlank line

variable (scanner : Scanner) (lines : List Text)

/-! ## What stands at a place -/

def classAt? (place : Nat) : Option Text :=
  (lineAt? lines place).bind scanner.dialect.classStart

def marksAt (place : Nat) : Bool :=
  (lineAt? lines place).any scanner.dialect.testMarker

/-- The items at a place: none where a marker line stands. -/
def itemsAt (place : Nat) : List Item :=
  match lineAt? lines place with
  | none => []
  | some line => scanner.lineItems line

/-- The method that is declared at a place, whatever else stands there. -/
def declaredAt? (place : Nat) : Option Text :=
  (lineAt? lines place).bind scanner.declared?

/-- The method of the signature line at a place: no marker line stands there and
no items do. -/
def signatureAt? (place : Nat) : Option Text :=
  (lineAt? lines place).bind scanner.signature?

/-! ## What reaches a place -/

/-- A place at or after the first class line. -/
def IsInside (place : Nat) : Prop :=
  ∃ opening ≤ place, (scanner.classAt? lines opening).isSome = true

instance (place : Nat) : Decidable (scanner.IsInside lines place) :=
  inferInstanceAs (Decidable (∃ opening ≤ place, _))

/-- The class that is opened last on the first `count` lines. -/
def lastClass? (count : Nat) : Option Text :=
  ((List.range count).filterMap (scanner.classAt? lines)).getLast?

/-- The items before the first class line, on the first `count` lines. -/
def itemsOutside (count : Nat) : List Item :=
  ((List.range count).filter fun place => ¬ scanner.IsInside lines place).flatMap
    (scanner.itemsAt lines)

/-- The items of the class level: all that stand before the first class line. -/
def classLevelItems : List Item :=
  scanner.itemsOutside lines lines.length

/-- Items at a place inside wait for a later place, if no class is opened after
them up to there and no signature line stands in between. -/
def Waits (origin place : Nat) : Prop :=
  scanner.IsInside lines origin ∧
    (∀ between ≤ place, origin < between → scanner.classAt? lines between = none) ∧
      ∀ between < place, origin < between → scanner.signatureAt? lines between = none

instance (origin place : Nat) : Decidable (scanner.Waits lines origin place) :=
  inferInstanceAs (Decidable (_ ∧ _ ∧ _))

/-- The items of the method level that a signature at a place would use. -/
def waitingItems (place : Nat) : List Item :=
  ((List.range place).filter fun origin => scanner.Waits lines origin place).flatMap
    (scanner.itemsAt lines)

/-- A signature line inside, for which items of either level wait. -/
def Consumes (place : Nat) : Prop :=
  (scanner.signatureAt? lines place).isSome = true ∧ scanner.IsInside lines place ∧
    (scanner.classLevelItems lines ≠ [] ∨ scanner.waitingItems lines place ≠ [])

instance (place : Nat) : Decidable (scanner.Consumes lines place) :=
  inferInstanceAs (Decidable (_ ∧ _ ∧ _))

/-- A marker line after the first class line that opens no class itself. -/
def SetsMarkerAt (place : Nat) : Prop :=
  scanner.IsInside lines place ∧ scanner.classAt? lines place = none ∧
    scanner.marksAt lines place = true

instance (place : Nat) : Decidable (scanner.SetsMarkerAt lines place) :=
  inferInstanceAs (Decidable (_ ∧ _ ∧ _))

/-- A marker stands before a place and no signature in between has used it. -/
def IsMarked (place : Nat) : Prop :=
  ∃ origin < place, scanner.SetsMarkerAt lines origin ∧
    ∀ between < place, origin < between → ¬ scanner.Consumes lines between

instance (place : Nat) : Decidable (scanner.IsMarked lines place) :=
  inferInstanceAs (Decidable (∃ origin < place, _))

/-- The records at a place: those of a consuming signature whose method is
marked or has the name of a test, first with the items of the class level. -/
def recordsAt (place : Nat) : List Record :=
  match scanner.lastClass? lines (place + 1), scanner.signatureAt? lines place with
  | some className, some method =>
      if scanner.Consumes lines place ∧
          (scanner.IsMarked lines place ∨ "test".toList <+: method) then
        recordOf ⟨scanner.fileUrl, className, method⟩ (scanner.classLevelItems lines) ++
          recordOf ⟨scanner.fileUrl, className, method⟩ (scanner.waitingItems lines place)
      else
        []
  | _, _ => []

def attributed : List Record :=
  (List.range lines.length).flatMap (scanner.recordsAt lines)

/-! ## Before and after the first class line -/

variable {scanner lines}

theorem isInside_mono {earlier later : Nat} (order : earlier ≤ later)
    (inside : scanner.IsInside lines earlier) : scanner.IsInside lines later := by
  obtain ⟨opening, before, opens⟩ := inside
  exact ⟨opening, by omega, opens⟩

/-- A place is inside exactly when some class has been opened up to there. -/
theorem isSome_lastClass?_succ {place : Nat} :
    (scanner.lastClass? lines (place + 1)).isSome = true ↔ scanner.IsInside lines place := by
  rw [lastClass?, List.getLast?_isSome, Ne, List.filterMap_eq_nil_iff]
  constructor
  · intro opened
    refine Decidable.byContradiction fun outside => opened fun opening before => ?_
    rw [List.mem_range] at before
    rw [← Option.not_isSome_iff_eq_none]
    intro opens
    exact outside ⟨opening, by omega, opens⟩
  · rintro ⟨opening, before, opens⟩ closed
    rw [closed opening (List.mem_range.2 (by omega))] at opens
    exact absurd opens (by decide)

theorem itemsOutside_of_isInside {place count : Nat} (inside : scanner.IsInside lines place)
    (order : place ≤ count) :
    scanner.itemsOutside lines count = scanner.itemsOutside lines place := by
  obtain ⟨more, rfl⟩ := Nat.exists_eq_add_of_le order
  induction more with
  | zero => rfl
  | succ more inductionHypothesis =>
      rw [← inductionHypothesis (by omega)]
      have later : scanner.IsInside lines (place + more) := isInside_mono (by omega) inside
      simp [itemsOutside, ← Nat.add_assoc, List.range_succ, later]

/-- What is read before a place inside is the whole class level. -/
theorem itemsOutside_eq_classLevelItems {place : Nat} (inside : scanner.IsInside lines place)
    (within : place < lines.length) :
    scanner.itemsOutside lines place = scanner.classLevelItems lines :=
  (itemsOutside_of_isInside inside (by omega)).symm

/-! ## One more line -/

variable (scanner lines)

theorem lastClass?_succ (count : Nat) :
    scanner.lastClass? lines (count + 1) =
      (scanner.classAt? lines count).or (scanner.lastClass? lines count) := by
  simp only [lastClass?, List.range_succ, List.filterMap_append]
  cases opened : scanner.classAt? lines count <;> simp [opened]

theorem itemsOutside_succ (count : Nat) :
    scanner.itemsOutside lines (count + 1) =
      if scanner.IsInside lines count then
        scanner.itemsOutside lines count
      else
        scanner.itemsOutside lines count ++ scanner.itemsAt lines count := by
  by_cases inside : scanner.IsInside lines count <;>
    simp [itemsOutside, List.range_succ, inside]

/-- Items at a place inside are pending after `count` lines, if none of the lines
after them opens a class or is a signature line. -/
def Pends (origin count : Nat) : Prop :=
  scanner.IsInside lines origin ∧ ∀ between < count, origin < between →
    scanner.classAt? lines between = none ∧ scanner.signatureAt? lines between = none

instance (origin count : Nat) : Decidable (scanner.Pends lines origin count) :=
  inferInstanceAs (Decidable (_ ∧ _))

def pendingItems (count : Nat) : List Item :=
  ((List.range count).filter fun origin => scanner.Pends lines origin count).flatMap
    (scanner.itemsAt lines)

variable {scanner lines} in
theorem waits_iff {origin place : Nat} (order : origin < place) :
    scanner.Waits lines origin place ↔
      scanner.Pends lines origin place ∧ scanner.classAt? lines place = none := by
  constructor
  · rintro ⟨inside, sameClass, unused⟩
    refine ⟨⟨inside, fun between before after => ?_⟩, sameClass place (Nat.le_refl place) order⟩
    exact ⟨sameClass between (by omega) after, unused between before after⟩
  · rintro ⟨⟨inside, quiet⟩, open?⟩
    refine ⟨inside, fun between upTo after => ?_, fun between before after =>
      (quiet between before after).2⟩
    rcases Nat.lt_or_eq_of_le upTo with before | rfl
    · exact (quiet between before after).1
    · exact open?

variable {scanner lines} in
theorem pends_succ {origin count : Nat} (order : origin < count) :
    scanner.Pends lines origin (count + 1) ↔
      scanner.Pends lines origin count ∧ scanner.classAt? lines count = none ∧
        scanner.signatureAt? lines count = none := by
  constructor
  · rintro ⟨inside, quiet⟩
    refine ⟨⟨inside, fun between before after => ?_⟩, quiet count (by omega) order⟩
    exact quiet between (by omega) after
  · rintro ⟨⟨inside, quiet⟩, last⟩
    refine ⟨inside, fun between before after => ?_⟩
    rcases Nat.lt_succ_iff_lt_or_eq.1 before with before | rfl
    · exact quiet between before after
    · exact last

theorem waitingItems_eq (place : Nat) :
    scanner.waitingItems lines place =
      if (scanner.classAt? lines place).isSome then [] else scanner.pendingItems lines place := by
  have waits : ∀ origin ∈ List.range place,
      decide (scanner.Waits lines origin place) =
        (decide (scanner.Pends lines origin place) && !(scanner.classAt? lines place).isSome) := by
    intro origin before
    rw [List.mem_range] at before
    cases opened : scanner.classAt? lines place <;> simp [waits_iff before, opened]
  rw [waitingItems, List.filter_congr waits]
  unfold pendingItems
  cases scanner.classAt? lines place <;> simp

/-- A signature line uses what waits for it, and the items of a line inside are
pending after it. -/
theorem pendingItems_succ (count : Nat) :
    scanner.pendingItems lines (count + 1) =
      (if (scanner.signatureAt? lines count).isSome then []
        else scanner.waitingItems lines count) ++
          if scanner.IsInside lines count then scanner.itemsAt lines count else [] := by
  have lastPends : scanner.Pends lines count (count + 1) ↔ scanner.IsInside lines count :=
    ⟨fun pends => pends.1, fun inside => ⟨inside, fun between before after => by omega⟩⟩
  have earlierPend : ∀ origin ∈ List.range count,
      decide (scanner.Pends lines origin (count + 1)) =
        (decide (scanner.Waits lines origin count) &&
          !(scanner.signatureAt? lines count).isSome) := by
    intro origin before
    rw [List.mem_range] at before
    cases used : scanner.signatureAt? lines count <;>
      simp [pends_succ before, waits_iff before, used]
  rw [pendingItems, List.range_succ, List.filter_append, List.flatMap_append,
    List.filter_congr earlierPend]
  congr 1
  · unfold waitingItems
    cases scanner.signatureAt? lines count <;> simp
  · by_cases inside : scanner.IsInside lines count <;> simp [lastPends, inside]

/-- A marker stays until a signature uses it. -/
theorem isMarked_succ (count : Nat) :
    scanner.IsMarked lines (count + 1) ↔
      scanner.SetsMarkerAt lines count ∨
        scanner.IsMarked lines count ∧ ¬ scanner.Consumes lines count := by
  constructor
  · rintro ⟨origin, upTo, sets, unused⟩
    rcases Nat.lt_succ_iff_lt_or_eq.1 upTo with before | rfl
    · right
      refine ⟨⟨origin, before, sets, fun between order after => ?_⟩, unused count (by omega) before⟩
      exact unused between (by omega) after
    · exact Or.inl sets
  · rintro (sets | ⟨⟨origin, before, sets, unused⟩, last⟩)
    · exact ⟨count, by omega, sets, fun between order after => by omega⟩
    · refine ⟨origin, by omega, sets, fun between order after => ?_⟩
      rcases Nat.lt_succ_iff_lt_or_eq.1 order with order | rfl
      · exact unused between order after
      · exact last

end BacklogTrace.Scanner
