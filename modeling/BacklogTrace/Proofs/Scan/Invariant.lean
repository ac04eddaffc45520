import BacklogTrace.Proofs.Dialect.Name
import BacklogTrace.Proofs.Marker
import BacklogTrace.Proofs.Scan.Transition
import BacklogTrace.Scan.Input

/-!
Contract: what holds in every state that a scan of a language comes to.

A phase that waits has something that waits, a marker is set only inside a class,
names are names of the language, and items have the form of their systems, those
of the records included. After the first class the scan stays in a class and its
class level does not change. A line adds at most two records, and two exactly
when it is the signature of a test method for which items of both levels wait.

Owns: `ScanState.IsSound`, `ScanState.KeepsClassOf`, `Scanner.MeetsBothLevels`,
`Scanner.recordsOn`.

Does not own: which records a whole file has (`Proofs.Scan.Attribution`).
-/

namespace BacklogTrace

namespace Phase

/-- A phase that waits for a class or for a method has items for it. -/
def IsFilled : Phase → Prop
  | .pendingClass classItems => classItems ≠ []
  | .pendingMethod _ _ methodItems => methodItems ≠ []
  | .outside | .inClass _ _ => True

theorem isFilled_addItems (phase : Phase) {items : List Item} (found : items ≠ []) :
    (phase.addItems items).IsFilled := by
  cases phase with
  | outside => exact found
  | pendingClass => exact List.append_ne_nil_of_right_ne_nil _ found
  | inClass => exact found
  | pendingMethod => exact List.append_ne_nil_of_right_ne_nil _ found

theorem className?_of_awaitingClass? {phase : Phase} {className : Text}
    (awaited : phase.awaitingClass? = some className) : phase.className? = some className := by
  cases phase with
  | outside => exact absurd awaited (by simp [awaitingClass?])
  | pendingClass => exact absurd awaited (by simp [awaitingClass?])
  | inClass _ classItems =>
      cases classItems with
      | nil => exact absurd awaited (by simp [awaitingClass?])
      | cons => exact awaited
  | pendingMethod => exact awaited

theorem awaitingClass?_of_methodItems {phase : Phase} (waiting : phase.methodItems ≠ []) :
    phase.awaitingClass? = phase.className? := by
  cases phase with
  | outside => exact absurd rfl waiting
  | pendingClass => exact absurd rfl waiting
  | inClass => exact absurd rfl waiting
  | pendingMethod => rfl

end Phase

/-- A record of a file with names of a language and items of known systems. -/
structure Record.IsSound (language : Language) (fileUrl : Text) (record : Record) : Prop where
  fileUrl : record.test.fileUrl = fileUrl
  className : language.IsName record.test.className
  method : language.IsName record.test.method
  nonempty : record.items ≠ []
  items : ∀ item ∈ record.items, item.isWellFormed = true

namespace ScanState

/-- What the parts of a state owe to each other and to the language. -/
structure IsSound (language : Language) (fileUrl : Text) (state : ScanState) : Prop where
  filled : state.phase.IsFilled
  inside : state.marked = true → state.phase.className?.isSome = true
  className : ∀ className, state.phase.className? = some className → language.IsName className
  classItems : ∀ item ∈ state.phase.classItems, item.isWellFormed = true
  methodItems : ∀ item ∈ state.phase.methodItems, item.isWellFormed = true
  records : ∀ record ∈ state.records, record.IsSound language fileUrl

/-- If a class was open in the earlier state, one is open, and the items of the
class level are the same. -/
def KeepsClassOf (state earlier : ScanState) : Prop :=
  earlier.phase.className?.isSome = true →
    state.phase.className?.isSome = true ∧ state.phase.classItems = earlier.phase.classItems

end ScanState

namespace Scanner

/-! ## The class stays -/

section

variable {scanner : Scanner} {earlier state next : ScanState} {line : Text}

variable (scanner) in
theorem keepsClassOf_openClass (kept : state.KeepsClassOf earlier) (content : Text) :
    (scanner.openClass state content).KeepsClassOf earlier := by
  intro entered
  obtain ⟨inside, same⟩ := kept entered
  rw [className?_openClass, classItems_openClass, Option.isSome_or, inside, Bool.or_true]
  exact ⟨rfl, same⟩

theorem keepsClassOf_of_takes (kept : state.KeepsClassOf earlier)
    (step : scanner.Takes state line next) : next.KeepsClassOf earlier := by
  cases step with
  | blank => exact kept
  | @marker content =>
      have opened := keepsClassOf_openClass scanner kept content
      unfold ScanState.KeepsClassOf at opened ⊢
      rwa [phase_meetMarker]
  | @items content =>
      intro entered
      obtain ⟨inside, same⟩ := keepsClassOf_openClass scanner kept content entered
      refine ⟨?_, ?_⟩
      · rwa [Phase.className?_addItems]
      · rwa [Phase.classItems_addItems, if_pos inside]
  | idle => exact keepsClassOf_openClass scanner kept _
  | @method content =>
      intro entered
      exact ⟨rfl, (keepsClassOf_openClass scanner kept content entered).2⟩

theorem keepsClassOf_of_feedAll {lines : List Text}
    (run : scanner.feedAll state lines = .ok next) : next.KeepsClassOf state := by
  -- the state that the run begins in stays fixed, while the current one moves on
  have refl : state.KeepsClassOf state := fun entered => ⟨entered, rfl⟩
  exact @feedAll_preserves scanner state next (fun other => other.KeepsClassOf state)
    keepsClassOf_of_takes lines refl run

/-! ## What a line adds to the records -/

variable (scanner state line) in
/-- The records that a line adds, if it does not fault. -/
def recordsOn : List Record :=
  match content? line with
  | none => []
  | some content =>
      match (scanner.openClass state content).phase.awaitingClass?, scanner.signature? content with
      | some className, some method =>
          scanner.recordsOf (scanner.openClass state content) className method
      | _, _ => []

theorem signature?_of_declares {content : Text} {method? : Option Text}
    (plain : scanner.dialect.testMarker content = false) (bare : scanner.lineItems content = [])
    (declares : scanner.dialect.methodSignature content = .ok method?) :
    scanner.signature? content = method? := by
  simp [signature?, declared?, plain, bare, declares]

theorem records_of_takes (step : scanner.Takes state line next) :
    next.records = state.records ++ scanner.recordsOn state line := by
  unfold recordsOn
  cases step with
  | blank nothing => simp [nothing]
  | marker read marks => simp [read, marks]
  | items read found => simp [read, signature?_of_lineItems scanner found]
  | @idle content read plain bare unmet =>
      rcases unmet with unawaited | undeclared
      · simp [read, unawaited]
      · simp [read, signature?_of_declares plain bare undeclared]
  | method read plain bare awaited declares =>
      simp [read, awaited, signature?_of_declares plain bare declares, meetMethod]

variable (scanner state line) in
/-- On a line that is the signature of a test method, once the line has opened its
class, items of both levels wait. -/
structure MeetsBothLevels (opened : ScanState) (test : TestMethod) : Prop where
  signature : ∃ content, content? line = some content ∧
    opened = scanner.openClass state content ∧ scanner.signature? content = some test.method
  fileUrl : test.fileUrl = scanner.fileUrl
  className : opened.phase.className? = some test.className
  isTest : opened.marked = true ∨ "test".toList <+: test.method
  classItems : opened.phase.classItems ≠ []
  methodItems : opened.phase.methodItems ≠ []

theorem isTest_iff (state : ScanState) (method : Text) :
    (state.marked || isTestName method) = true ↔
      state.marked = true ∨ "test".toList <+: method := by
  rw [Bool.or_eq_true, isTestName, List.isPrefixOf_iff_prefix]

theorem length_recordsOf_le (state : ScanState) (className method : Text) :
    (scanner.recordsOf state className method).length ≤ 2 := by
  unfold recordsOf
  split
  · rw [List.length_append, length_recordOf, length_recordOf]
    split <;> split <;> decide
  · exact Nat.zero_le 2

theorem length_recordsOf_eq_two_iff (state : ScanState) (className method : Text) :
    (scanner.recordsOf state className method).length = 2 ↔
      (state.marked = true ∨ "test".toList <+: method) ∧
        state.phase.classItems ≠ [] ∧ state.phase.methodItems ≠ [] := by
  rw [← isTest_iff]
  unfold recordsOf
  split
  · rename_i isTest
    rw [List.length_append, length_recordOf, length_recordOf]
    cases state.phase.classItems <;> cases state.phase.methodItems <;> simp [isTest]
  · rename_i untested
    simp [untested]

theorem length_recordsOn_le (state : ScanState) (line : Text) :
    (scanner.recordsOn state line).length ≤ 2 := by
  unfold recordsOn
  split
  · exact Nat.zero_le 2
  · split
    · exact length_recordsOf_le _ _ _
    · exact Nat.zero_le 2

theorem recordsOn_of_meetsBothLevels {opened : ScanState} {test : TestMethod}
    (meets : scanner.MeetsBothLevels state line opened test) :
    scanner.recordsOn state line =
      [⟨test, opened.phase.classItems⟩, ⟨test, opened.phase.methodItems⟩] := by
  obtain ⟨content, read, rfl, signature⟩ := meets.signature
  have awaited := (Phase.awaitingClass?_of_methodItems meets.methodItems).trans meets.className
  have isTest := (isTest_iff _ _).2 meets.isTest
  have same : (⟨scanner.fileUrl, test.className, test.method⟩ : TestMethod) = test := by
    rw [← meets.fileUrl]
  simp only [recordsOn, read, awaited, signature]
  rw [recordsOf, if_pos isTest, same, recordOf_of_ne_nil test meets.classItems,
    recordOf_of_ne_nil test meets.methodItems]
  rfl

theorem length_recordsOn_eq_two_iff (state : ScanState) (line : Text) :
    (scanner.recordsOn state line).length = 2 ↔
      ∃ opened test, scanner.MeetsBothLevels state line opened test := by
  constructor
  · intro two
    unfold recordsOn at two
    split at two
    · exact absurd two (by decide)
    · rename_i content read
      split at two
      · rename_i className method awaited signature
        obtain ⟨isTest, classItems, methodItems⟩ := (length_recordsOf_eq_two_iff _ _ _).1 two
        exact ⟨scanner.openClass state content, ⟨scanner.fileUrl, className, method⟩,
          ⟨content, read, rfl, signature⟩, rfl, Phase.className?_of_awaitingClass? awaited,
          isTest, classItems, methodItems⟩
      · exact absurd two (by decide)
  · intro ⟨opened, test, meets⟩
    rw [recordsOn_of_meetsBothLevels meets]
    rfl

end

/-! ## Names and items -/

section

variable {language : Language} {fileUrl : Text} {state next : ScanState} {line : Text}

theorem isSound_start : ScanState.start.IsSound language fileUrl where
  filled := trivial
  inside := fun marked => absurd marked (by decide)
  className := fun _ entered => absurd entered (by simp [ScanState.start, Phase.className?])
  classItems := List.forall_mem_nil _
  methodItems := List.forall_mem_nil _
  records := List.forall_mem_nil _

/-- The items of a line are those that its markers list, or none. -/
theorem isWellFormed_of_mem_lineItems {content : Text} {item : Item}
    (member : item ∈ (ofLanguage language fileUrl).lineItems content) :
    item.isWellFormed = true := by
  unfold lineItems at member
  split at member
  · exact absurd member List.not_mem_nil
  · exact Marker.isWellFormed_of_mem_extractFrom member

theorem isSound_openClass (sound : state.IsSound language fileUrl) (content : Text) :
    ((ofLanguage language fileUrl).openClass state content).IsSound language fileUrl := by
  unfold openClass
  cases opens : (ofLanguage language fileUrl).dialect.classStart content with
  | none => exact sound
  | some className =>
      -- the items of the class level pass into the new class, those of the method level do not
      refine ⟨trivial, fun _ => rfl, ?_, sound.classItems, ?_, sound.records⟩
      · intro other same
        rw [← Option.some.inj same]
        exact Language.isName_of_classStart opens
      · exact List.forall_mem_nil _

theorem isSound_meetMarker (sound : state.IsSound language fileUrl) (content : Text) :
    ((ofLanguage language fileUrl).meetMarker state content).IsSound language fileUrl := by
  unfold meetMarker
  split
  · rename_i counts
    rw [Bool.and_eq_true] at counts
    exact ⟨sound.filled, fun _ => counts.2, sound.className, sound.classItems,
      sound.methodItems, sound.records⟩
  · exact sound

theorem isSound_addItems (sound : state.IsSound language fileUrl) {items : List Item}
    (found : items ≠ []) (wellFormed : ∀ item ∈ items, item.isWellFormed = true) :
    { state with phase := state.phase.addItems items }.IsSound language fileUrl where
  filled := state.phase.isFilled_addItems found
  inside := by
    intro marked
    rw [Phase.className?_addItems]
    exact sound.inside marked
  className := by
    rw [Phase.className?_addItems]
    exact sound.className
  classItems := by
    rw [Phase.classItems_addItems]
    split
    · exact sound.classItems
    · exact List.forall_mem_append.2 ⟨sound.classItems, wellFormed⟩
  methodItems := by
    rw [Phase.methodItems_addItems]
    split
    · exact List.forall_mem_append.2 ⟨sound.methodItems, wellFormed⟩
    · exact List.forall_mem_nil _
  records := sound.records

theorem isSound_meetMethod (sound : state.IsSound language fileUrl) {className method : Text}
    (inside : state.phase.className? = some className) (named : language.IsName method) :
    ((ofLanguage language fileUrl).meetMethod state className method).IsSound
      language fileUrl where
  filled := trivial
  inside := fun marked => absurd marked (by simp [meetMethod])
  className := by
    intro other same
    rw [← Option.some.inj same]
    exact sound.className className inside
  classItems := sound.classItems
  methodItems := List.forall_mem_nil _
  records := by
    -- both levels make their records in the same way, of the items that wait there
    have own : language.IsName className := sound.className className inside
    have added : ∀ items : List Item, (∀ item ∈ items, item.isWellFormed = true) →
        ∀ record ∈ recordOf ⟨fileUrl, className, method⟩ items,
          record.IsSound language fileUrl := by
      intro items wellFormed record member
      obtain ⟨nonempty, rfl⟩ := mem_recordOf_iff.1 member
      exact ⟨rfl, own, named, nonempty, wellFormed⟩
    refine List.forall_mem_append.2 ⟨sound.records, ?_⟩
    unfold recordsOf
    split
    · exact List.forall_mem_append.2
        ⟨added _ sound.classItems, added _ sound.methodItems⟩
    · exact List.forall_mem_nil _

theorem isSound_of_takes (sound : state.IsSound language fileUrl)
    (step : (ofLanguage language fileUrl).Takes state line next) :
    next.IsSound language fileUrl := by
  cases step with
  | blank => exact sound
  | marker => exact isSound_meetMarker (isSound_openClass sound _) _
  | items _ found =>
      exact isSound_addItems (isSound_openClass sound _) found
        fun _ member => isWellFormed_of_mem_lineItems member
  | idle => exact isSound_openClass sound _
  | method _ _ _ awaited declares =>
      exact isSound_meetMethod (isSound_openClass sound _)
        (Phase.className?_of_awaitingClass? awaited) (Language.isName_of_methodSignature declares)

theorem isSound_of_feedAll {lines : List Text} (sound : state.IsSound language fileUrl)
    (run : (ofLanguage language fileUrl).feedAll state lines = .ok next) :
    next.IsSound language fileUrl :=
  feedAll_preserves isSound_of_takes sound run

/-- Every state that a scan of a language comes to is sound. From there on it keeps
its class level once a class is open, and every line only adds records: at most
two, and two exactly when it is the signature of a test method for which items of
both levels wait. Those two are of one method, the class level first. -/
theorem reachable_state_invariant {lines : List Text}
    (run : (ofLanguage language fileUrl).feedAll .start lines = .ok state) :
    state.IsSound language fileUrl ∧
      (∀ later last, (ofLanguage language fileUrl).feedAll state later = .ok last →
        last.KeepsClassOf state) ∧
      ∀ line next, (ofLanguage language fileUrl).feed state line = .ok next →
        ∃ found, next.records = state.records ++ found ∧ found.length ≤ 2 ∧
          (found.length = 2 ↔ ∃ opened test,
            (ofLanguage language fileUrl).MeetsBothLevels state line opened test) ∧
          ∀ opened test, (ofLanguage language fileUrl).MeetsBothLevels state line opened test →
            found = [⟨test, opened.phase.classItems⟩, ⟨test, opened.phase.methodItems⟩] := by
  refine ⟨isSound_of_feedAll isSound_start run, ?_, ?_⟩
  · intro later last followed
    exact keepsClassOf_of_feedAll followed
  · intro line next fed
    refine ⟨(ofLanguage language fileUrl).recordsOn state line, ?_, ?_, ?_, ?_⟩
    · exact records_of_takes (feed_eq_ok_iff_takes.1 fed)
    · exact length_recordsOn_le state line
    · exact length_recordsOn_eq_two_iff state line
    · intro opened test meets
      exact recordsOn_of_meetsBothLevels meets

/-- A marked method for which an item of each level waits. -/
theorem reachable_state_invariant_java :
    (ofLanguage .java "A.java".toList).feedAll .start
        ["// Trace(Jira:A-1)".toList, "class A \x7b".toList, "// Trace(GitHub:o/r#2)".toList,
          "@Test".toList] =
      .ok ⟨.pendingMethod "A".toList [⟨"A-1".toList, .jira⟩] [⟨"o/r#2".toList, .gitHub⟩],
        true, []⟩ ∧
    ScanState.IsSound .java "A.java".toList
      ⟨.pendingMethod "A".toList [⟨"A-1".toList, .jira⟩] [⟨"o/r#2".toList, .gitHub⟩], true, []⟩ ∧
    ∃ next, (ofLanguage .java "A.java".toList).feed
        ⟨.pendingMethod "A".toList [⟨"A-1".toList, .jira⟩] [⟨"o/r#2".toList, .gitHub⟩],
          true, []⟩ "void run() \x7b".toList = .ok next ∧
      next.records =
        [⟨⟨"A.java".toList, "A".toList, "run".toList⟩, [⟨"A-1".toList, .jira⟩]⟩,
          ⟨⟨"A.java".toList, "A".toList, "run".toList⟩, [⟨"o/r#2".toList, .gitHub⟩]⟩] := by
  have run : (ofLanguage .java "A.java".toList).feedAll .start
      ["// Trace(Jira:A-1)".toList, "class A \x7b".toList, "// Trace(GitHub:o/r#2)".toList,
        "@Test".toList] =
      .ok ⟨.pendingMethod "A".toList [⟨"A-1".toList, .jira⟩] [⟨"o/r#2".toList, .gitHub⟩],
        true, []⟩ := rfl
  obtain ⟨sound, -, adds⟩ := reachable_state_invariant run
  obtain ⟨found, grown, -, -, pair⟩ := adds "void run() \x7b".toList _ rfl
  have both := pair
    ⟨.pendingMethod "A".toList [⟨"A-1".toList, .jira⟩] [⟨"o/r#2".toList, .gitHub⟩], true, []⟩
    ⟨"A.java".toList, "A".toList, "run".toList⟩
    ⟨⟨"void run() \x7b".toList, rfl, rfl, rfl⟩, rfl, rfl, Or.inl rfl, by decide, by decide⟩
  exact ⟨run, sound, _, rfl, grown.trans both⟩

end

end Scanner

end BacklogTrace
