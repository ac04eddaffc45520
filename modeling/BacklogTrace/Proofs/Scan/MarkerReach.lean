import Mathlib.Data.Nat.Find
import BacklogTrace.Proofs.Scan.Attribution

/-!
Contract: which method a test marker makes a test.

A marker is used by the first signature that finds something waiting, not by the
first method declared after it. So a record of a method without a test's name
has a marker line before it with no consuming signature in between; that marker
is the method's own exactly when nothing was passed over on the way: no class
opened, and no method declared that the scan did not look at.

Owns: `Scanner.EmitsAt`, `Scanner.ServesNext`, `Scanner.PassesOver`.

Does not own: methods that are tests by their names.
-/

namespace BacklogTrace.Scanner

variable (scanner : Scanner) (lines : List Text)

/-- A record is found on the line at a place, whether or not the scan comes to
the end of the file. -/
def EmitsAt (place : Nat) (record : Record) : Prop :=
  ∃ line before after found,
    lines[place]? = some line ∧ scanner.feedAll .start (lines.take place) = .ok before ∧
      scanner.feed before line = .ok after ∧ after.records = before.records ++ found ∧
        record ∈ found

/-- A marker line that opens no class, wherever it stands. -/
def IsMarkerLineAt (place : Nat) : Prop :=
  scanner.classAt? lines place = none ∧ scanner.marksAt lines place = true

instance (place : Nat) : Decidable (scanner.IsMarkerLineAt lines place) :=
  inferInstanceAs (Decidable (_ ∧ _))

/-- The method at a place is the first that is declared after some marker line,
in the class of that line. -/
def ServesNext (place : Nat) : Prop :=
  ∃ origin < place, scanner.IsMarkerLineAt lines origin ∧
    ∀ between < place, origin < between →
      scanner.classAt? lines between = none ∧ scanner.declaredAt? lines between = none

instance (place : Nat) : Decidable (scanner.ServesNext lines place) :=
  inferInstanceAs (Decidable (∃ origin < place, _))

/-- A method is declared at a place and uses nothing there: nothing waits for it,
or its line is a marker line or has items. -/
def PassesOver (place : Nat) : Prop :=
  (scanner.declaredAt? lines place).isSome = true ∧ ¬ scanner.Consumes lines place

/-- The last marker line before a place that counts. -/
structure IsLastMarkerBefore (place origin : Nat) : Prop where
  before : origin < place
  sets : scanner.SetsMarkerAt lines origin
  last : ∀ between < place, origin < between → ¬ scanner.SetsMarkerAt lines between

variable {scanner lines} {place : Nat} {record : Record}

theorem mem_recordsAt_of_emitsAt (emitted : scanner.EmitsAt lines place record) :
    record ∈ scanner.recordsAt lines place := by
  obtain ⟨line, before, after, found, standing, run, fed, grown, member⟩ := emitted
  have within : place < lines.length := (List.getElem?_eq_some_iff.1 standing).1
  have described := describes_feedAll_take (by omega) run
  have next := (describes_feed described standing fed).records
  rw [grown, described.records, List.range_succ, List.flatMap_append, List.flatMap_singleton]
    at next
  rwa [← List.append_cancel_left next]

/-- A record at a place is of a consuming signature, marked or named as a test. -/
theorem consumes_of_mem_recordsAt (member : record ∈ scanner.recordsAt lines place) :
    scanner.Consumes lines place ∧
      (scanner.IsMarked lines place ∨ "test".toList <+: record.test.method) := by
  unfold recordsAt at member
  split at member
  · rename_i className method _ _
    split at member
    · rename_i qualifies
      have test : record.test = ⟨scanner.fileUrl, className, method⟩ := by
        rcases List.mem_append.1 member with outer | inner
        · rw [(mem_recordOf_iff.1 outer).2]
        · rw [(mem_recordOf_iff.1 inner).2]
      rw [test]
      exact qualifies
    · exact absurd member List.not_mem_nil
  · exact absurd member List.not_mem_nil

theorem exists_last_below {holds : Nat → Prop} [DecidablePred holds] {bound : Nat}
    (somewhere : ∃ index < bound, holds index) :
    ∃ index < bound, holds index ∧ ∀ later < bound, index < later → ¬ holds later := by
  obtain ⟨index, below, here⟩ := somewhere
  have bounded : Nat.findGreatest holds (bound - 1) ≤ bound - 1 := Nat.findGreatest_le _
  refine ⟨Nat.findGreatest holds (bound - 1), by omega, ?_, ?_⟩
  · exact Nat.findGreatest_spec (show index ≤ bound - 1 by omega) here
  · intro later upTo after
    exact Nat.findGreatest_is_greatest after (by omega)

/-- A marked place has a last marker line before it, and no signature used that
marker. -/
theorem exists_isLastMarkerBefore (marked : scanner.IsMarked lines place) :
    ∃ origin, scanner.IsLastMarkerBefore lines place origin ∧
      ∀ between < place, origin < between → ¬ scanner.Consumes lines between := by
  obtain ⟨first, before, sets, unused⟩ := marked
  obtain ⟨origin, below, setsLast, last⟩ := exists_last_below ⟨first, before, sets⟩
  refine ⟨origin, ⟨below, setsLast, last⟩, fun between upTo after => ?_⟩
  have order : first ≤ origin := by
    refine Decidable.byContradiction fun later => ?_
    exact last first before (by omega) sets
  exact unused between upTo (by omega)

/-- A marker serves the next method exactly when the last one does: an earlier
one has the last one after it, and a later one is not inside. -/
theorem servesNext_iff {origin : Nat} (marker : scanner.IsLastMarkerBefore lines place origin) :
    scanner.ServesNext lines place ↔
      ∀ between < place, origin < between →
        scanner.classAt? lines between = none ∧ scanner.declaredAt? lines between = none := by
  constructor
  · rintro ⟨other, before, markerLine, direct⟩ between upTo after
    have order : other ≤ origin := by
      refine Decidable.byContradiction fun later => ?_
      have inside := isInside_mono (Nat.le_of_lt (Nat.lt_of_not_le later)) marker.sets.1
      exact marker.last other before (by omega) ⟨inside, markerLine⟩
    exact direct between upTo (by omega)
  · intro direct
    exact ⟨origin, marker.before, marker.sets.2, direct⟩

/-- A record of a method without a test's name has a last marker line before it
that no signature has used. It is the method's own marker exactly when, after
it, no class opens and no declared method is passed over. -/
theorem marker_serves_next_method_iff (emitted : scanner.EmitsAt lines place record)
    (unnamed : ¬ "test".toList <+: record.test.method) :
    ∃ origin, scanner.IsLastMarkerBefore lines place origin ∧
      (∀ between < place, origin < between → ¬ scanner.Consumes lines between) ∧
        (scanner.ServesNext lines place ↔
          ∀ between < place, origin < between →
            scanner.classAt? lines between = none ∧ ¬ scanner.PassesOver lines between) := by
  have marked := (consumes_of_mem_recordsAt (mem_recordsAt_of_emitsAt emitted)).2.resolve_right
    unnamed
  obtain ⟨origin, marker, unused⟩ := exists_isLastMarkerBefore marked
  refine ⟨origin, marker, unused, ?_⟩
  rw [servesNext_iff marker]
  constructor
  · intro direct between upTo after
    obtain ⟨sameClass, undeclared⟩ := direct between upTo after
    refine ⟨sameClass, fun passed => ?_⟩
    rw [PassesOver, undeclared] at passed
    exact absurd passed.1 (by decide)
  · intro direct between upTo after
    obtain ⟨sameClass, passed⟩ := direct between upTo after
    refine ⟨sameClass, ?_⟩
    rw [← Option.not_isSome_iff_eq_none]
    exact fun declared => passed ⟨declared, unused between upTo after⟩

/-- The record of a method that follows its own marker. -/
theorem marker_serves_next_method_run :
    (ofLanguage .java "A.java".toList).EmitsAt
        ["class A \x7b".toList, "// Trace(Jira:A-1)".toList, "@Test".toList,
          "void run() \x7b".toList] 3
        ⟨⟨"A.java".toList, "A".toList, "run".toList⟩, [⟨"A-1".toList, .jira⟩]⟩ ∧
      ¬ "test".toList <+: "run".toList ∧
      ∃ origin, (ofLanguage .java "A.java".toList).IsLastMarkerBefore
        ["class A \x7b".toList, "// Trace(Jira:A-1)".toList, "@Test".toList,
          "void run() \x7b".toList] 3 origin := by
  have emitted : (ofLanguage .java "A.java".toList).EmitsAt
      ["class A \x7b".toList, "// Trace(Jira:A-1)".toList, "@Test".toList, "void run() \x7b".toList] 3
      ⟨⟨"A.java".toList, "A".toList, "run".toList⟩, [⟨"A-1".toList, .jira⟩]⟩ := by
    refine ⟨"void run() \x7b".toList,
      ⟨.pendingMethod "A".toList [] [⟨"A-1".toList, .jira⟩], true, []⟩,
      ⟨.inClass "A".toList [], false,
        [⟨⟨"A.java".toList, "A".toList, "run".toList⟩, [⟨"A-1".toList, .jira⟩]⟩]⟩,
      _, rfl, ?_, ?_, rfl, List.mem_singleton_self _⟩
    · rfl
    · rfl
  have unnamed : ¬ "test".toList <+: "run".toList := by decide
  obtain ⟨origin, marker, -⟩ := marker_serves_next_method_iff emitted unnamed
  exact ⟨emitted, unnamed, origin, marker⟩

/-- A marker whose method has nothing waiting makes a test of the helper after
that method. -/
theorem not_servesNext_helper :
    (ofLanguage .java "A.java".toList).EmitsAt
        ["class A \x7b".toList, "@Test".toList, "void first() \x7b".toList,
          "// Trace(Jira:A-1)".toList, "void helper() \x7b".toList] 4
        ⟨⟨"A.java".toList, "A".toList, "helper".toList⟩, [⟨"A-1".toList, .jira⟩]⟩ ∧
      ¬ "test".toList <+: "helper".toList ∧
      ¬ (ofLanguage .java "A.java".toList).ServesNext
        ["class A \x7b".toList, "@Test".toList, "void first() \x7b".toList,
          "// Trace(Jira:A-1)".toList, "void helper() \x7b".toList] 4 := by
  refine ⟨⟨"void helper() \x7b".toList,
    ⟨.pendingMethod "A".toList [] [⟨"A-1".toList, .jira⟩], true, []⟩,
    ⟨.inClass "A".toList [], false,
      [⟨⟨"A.java".toList, "A".toList, "helper".toList⟩, [⟨"A-1".toList, .jira⟩]⟩]⟩,
    _, rfl, ?_, ?_, rfl, List.mem_singleton_self _⟩, ?_, ?_⟩
  · rfl
  · rfl
  · decide
  · decide +kernel

end BacklogTrace.Scanner
