import BacklogTrace.Proofs.Dialect.Abap
import BacklogTrace.Proofs.Scan.Step
import BacklogTrace.Scan.Input

/-!
Contract: what a scan finds in an ABAP class that declares its test methods
before it implements them.

Right before each declaration a comment lists the items of the method. But a
declaration is no signature: the scan has one place for items that wait for a
method and one marker, so the items of all declarations gather there until the
first implemented method takes them together. Only with one method does every
method keep its own.

Owns: `AbapLine.step`, `AbapUnit`, the records of a unit.

Does not own: classes with other lines among these.
-/

namespace BacklogTrace

open Scanner

namespace AbapLine

/-- What a line does to the state of a scan. -/
def step (scanner : Scanner) (state : ScanState) : AbapLine → ScanState
  | .comment items =>
      if items.isEmpty then state else { state with phase := state.phase.addItems items }
  | .definition className => { state with phase := state.phase.enterClass className }
  | .declaration _ =>
      if state.phase.className?.isSome then { state with marked := true } else state
  | .method name =>
      match state.phase.awaitingClass? with
      | none => state
      | some className => scanner.meetMethod state className name
  | .implementation _ | .endOfMethod | .endOfClass => state

theorem feed_text (fileUrl : Text) (state : ScanState) {line : AbapLine}
    (wellFormed : line.IsWellFormed) :
    (ofLanguage .abap fileUrl).feed state line.text =
      .ok (line.step (ofLanguage .abap fileUrl) state) := by
  have read : (ofLanguage .abap fileUrl).feed state line.text =
      (ofLanguage .abap fileUrl).feedLine state line.text := by
    rcases line.getLast?_text with ends | ends
    · exact feed_of_getLast? _ state ends (by decide)
    · exact feed_of_getLast? _ state ends (by decide)
  have opens : (ofLanguage .abap fileUrl).dialect.classStart line.text = line.class? :=
    abapClassStart_text wellFormed
  have marker : (ofLanguage .abap fileUrl).dialect.testMarker line.text = line.marks :=
    abapTestMarker_text wellFormed
  have found : (ofLanguage .abap fileUrl).extractor line.text = line.items :=
    extract_text wellFormed
  have declared : (ofLanguage .abap fileUrl).dialect.methodSignature line.text =
      .ok line.method? :=
    congrArg Except.ok (abapMethodSignature_text wellFormed)
  rw [read]
  simp only [feedLine, openClass, meetMarker, seekMethod, opens, marker, found, declared]
  cases line with
  | comment items =>
      simp only [class?, marks, AbapLine.items, method?, step]
      cases items <;> cases state.phase.awaitingClass? <;> rfl
  | definition => rfl
  | declaration =>
      simp only [class?, marks, step, if_true, Option.isNone_none, Bool.true_and]
  | method | implementation | endOfMethod | endOfClass =>
      simp only [class?, marks, AbapLine.items, method?, step]
      cases state.phase.awaitingClass? <;> rfl

theorem feedAll_map_text (fileUrl : Text) (state : ScanState) {lines : List AbapLine}
    (wellFormed : ∀ line ∈ lines, line.IsWellFormed) :
    (ofLanguage .abap fileUrl).feedAll state (lines.map text) =
      .ok (lines.foldl (step (ofLanguage .abap fileUrl)) state) := by
  induction lines generalizing state with
  | nil => rfl
  | cons line lines inductionHypothesis =>
      rw [List.map_cons, feedAll, feed_text fileUrl state (wellFormed line (by simp))]
      exact inductionHypothesis _ fun other member => wellFormed other (by simp [member])

end AbapLine

/-- A test method with the items of the comment before its declaration. -/
structure AbapMember where
  name : Text
  items : List Item
deriving DecidableEq, Repr

namespace AbapMember

def declarationLines (member : AbapMember) : List AbapLine :=
  [.comment member.items, .declaration member.name]

def implementationLines (member : AbapMember) : List AbapLine :=
  [.method member.name, .endOfMethod]

end AbapMember

structure AbapUnit where
  /-- The items of the comments before the class. -/
  comments : List (List Item)
  className : Text
  members : List AbapMember
deriving DecidableEq, Repr

namespace AbapUnit

/-- Every name is a name, every item has the form of its system, and there is a
method, each with an item. -/
structure IsWellFormed (unit : AbapUnit) : Prop where
  comments : ∀ items ∈ unit.comments, ∀ item ∈ items, item.isWellFormed = true
  className : IsAbapName unit.className
  notKeyword : unit.className ≠ "DEFINITION".toList
  nonempty : unit.members ≠ []
  names : ∀ member ∈ unit.members, IsAbapName member.name
  items : ∀ member ∈ unit.members, ∀ item ∈ member.items, item.isWellFormed = true
  traced : ∀ member ∈ unit.members, member.items ≠ []

/-- The class with its declarations, and then its methods. -/
def lines (unit : AbapUnit) : List AbapLine :=
  unit.comments.map .comment ++ .definition unit.className ::
    (unit.members.flatMap AbapMember.declarationLines ++
      .endOfClass :: .implementation unit.className ::
        (unit.members.flatMap AbapMember.implementationLines ++ [.endOfClass]))

def classItems (unit : AbapUnit) : List Item :=
  unit.comments.flatten

/-- The records of a class, if every method is to keep its own items. -/
def ownRecords (unit : AbapUnit) (fileUrl : Text) : List Record :=
  unit.members.flatMap fun member =>
    recordOf ⟨fileUrl, unit.className, member.name⟩ unit.classItems ++
      [⟨⟨fileUrl, unit.className, member.name⟩, member.items⟩]

/-- What becomes of the methods after the first: the marker is used, so a name
has to make them tests, and only items of the class level are left. -/
def laterRecords (fileUrl className : Text) (classItems : List Item)
    (members : List AbapMember) : List Record :=
  members.flatMap fun member =>
    if isTestName member.name then recordOf ⟨fileUrl, className, member.name⟩ classItems else []

/-- The records that a scan finds: the first method takes the items of all. -/
def foundRecords (unit : AbapUnit) (fileUrl : Text) : List Record :=
  match unit.members with
  | [] => []
  | first :: rest =>
      recordOf ⟨fileUrl, unit.className, first.name⟩ unit.classItems ++
        ⟨⟨fileUrl, unit.className, first.name⟩,
            first.items ++ rest.flatMap AbapMember.items⟩ ::
          laterRecords fileUrl unit.className unit.classItems rest

theorem IsWellFormed.lines {unit : AbapUnit} (wellFormed : unit.IsWellFormed) :
    ∀ line ∈ unit.lines, line.IsWellFormed := by
  intro line member
  simp only [AbapUnit.lines, AbapMember.declarationLines, AbapMember.implementationLines,
    List.mem_append, List.mem_cons, List.mem_map, List.mem_flatMap, List.not_mem_nil,
    or_false] at member
  rcases member with ⟨items, inComments, rfl⟩ | rfl |
    ⟨declared, inMembers, rfl | rfl⟩ | rfl | rfl | ⟨implemented, inMembers, rfl | rfl⟩ | rfl
  · exact wellFormed.comments items inComments
  · exact ⟨wellFormed.className, wellFormed.notKeyword⟩
  · exact wellFormed.items declared inMembers
  · exact wellFormed.names declared inMembers
  · exact trivial
  · exact wellFormed.className
  · exact wellFormed.names implemented inMembers
  · exact trivial
  · exact trivial

/-! ## Runs over the parts of a unit -/

variable (scanner : Scanner)

theorem foldl_comments (comments : List (List Item)) (state : ScanState)
    (outside : state.phase.className? = none) :
    ∃ phase : Phase, (comments.map AbapLine.comment).foldl (AbapLine.step scanner) state =
        { state with phase := phase } ∧
      phase.className? = none ∧
        phase.classItems = state.phase.classItems ++ comments.flatten := by
  induction comments generalizing state with
  | nil => exact ⟨state.phase, rfl, outside, by simp⟩
  | cons items comments inductionHypothesis =>
      rw [List.map_cons, List.foldl_cons, AbapLine.step]
      cases bare : items.isEmpty with
      | true =>
          obtain ⟨phase, run, stays, gathered⟩ := inductionHypothesis state outside
          rw [List.isEmpty_iff.1 bare]
          exact ⟨phase, run, stays, gathered⟩
      | false =>
          have first : (state.phase.addItems items).classItems =
              state.phase.classItems ++ items := by
            rw [Phase.classItems_addItems, outside, Option.isSome_none, if_neg (by decide)]
          obtain ⟨phase, run, stays, gathered⟩ := inductionHypothesis
            { state with phase := state.phase.addItems items }
            ((Phase.className?_addItems _ _).trans outside)
          refine ⟨phase, run, stays, ?_⟩
          rw [gathered, first, List.flatten_cons, List.append_assoc]

theorem foldl_declarations (className : Text) (classItems waiting : List Item)
    (records : List Record) (members : List AbapMember) :
    (members.flatMap AbapMember.declarationLines).foldl (AbapLine.step scanner)
        ⟨.pendingMethod className classItems waiting, true, records⟩ =
      ⟨.pendingMethod className classItems (waiting ++ members.flatMap AbapMember.items), true,
        records⟩ := by
  induction members generalizing waiting with
  | nil => simp
  | cons member members inductionHypothesis =>
      have first : member.declarationLines.foldl (AbapLine.step scanner)
          ⟨.pendingMethod className classItems waiting, true, records⟩ =
            ⟨.pendingMethod className classItems (waiting ++ member.items), true, records⟩ := by
        cases bare : member.items.isEmpty with
        | true =>
            simp [AbapMember.declarationLines, AbapLine.step, List.isEmpty_iff.1 bare]
        | false =>
            simp [AbapMember.declarationLines, AbapLine.step, bare, Phase.addItems]
      rw [List.flatMap_cons, List.foldl_append, first, inductionHypothesis, List.flatMap_cons,
        List.append_assoc]

/-- With the marker used and nothing waiting for a method, a method can only take
the items of the class level. -/
theorem foldl_implementations (className : Text) (classItems : List Item)
    (records : List Record) (members : List AbapMember) :
    (members.flatMap AbapMember.implementationLines).foldl (AbapLine.step scanner)
        ⟨.inClass className classItems, false, records⟩ =
      ⟨.inClass className classItems, false,
        records ++ laterRecords scanner.fileUrl className classItems members⟩ := by
  induction members generalizing records with
  | nil => simp [laterRecords]
  | cons member members inductionHypothesis =>
      have first : member.implementationLines.foldl (AbapLine.step scanner)
          ⟨.inClass className classItems, false, records⟩ =
            ⟨.inClass className classItems, false, records ++
              if isTestName member.name then
                recordOf ⟨scanner.fileUrl, className, member.name⟩ classItems
              else []⟩ := by
        cases classItems with
        | nil => simp [AbapMember.implementationLines, AbapLine.step, Phase.awaitingClass?, recordOf]
        | cons item items =>
            simp [AbapMember.implementationLines, AbapLine.step, Phase.awaitingClass?, meetMethod,
              recordsOf, recordOf, Phase.classItems, Phase.methodItems]
      rw [List.flatMap_cons, List.foldl_append, first, inductionHypothesis, laterRecords,
        laterRecords, List.flatMap_cons, List.append_assoc]

theorem foldl_definition (comments : List (List Item)) (className : Text) :
    (comments.map AbapLine.comment ++ [AbapLine.definition className]).foldl (AbapLine.step scanner)
        .start =
      ⟨.inClass className comments.flatten, false, []⟩ := by
  obtain ⟨phase, before, -, gathered⟩ := foldl_comments scanner comments .start rfl
  have outer : phase.classItems = comments.flatten := gathered
  rw [List.foldl_append, before, ← outer]
  rfl

theorem foldl_declarations_cons (className : Text) (classItems : List Item)
    {first : AbapMember} (traced : first.items ≠ []) (rest : List AbapMember) :
    ((first :: rest).flatMap AbapMember.declarationLines).foldl (AbapLine.step scanner)
        ⟨.inClass className classItems, false, []⟩ =
      ⟨.pendingMethod className classItems (first.items ++ rest.flatMap AbapMember.items), true,
        []⟩ := by
  have declared : first.declarationLines.foldl (AbapLine.step scanner)
      ⟨.inClass className classItems, false, []⟩ =
        ⟨.pendingMethod className classItems first.items, true, []⟩ := by
    simp [AbapMember.declarationLines, AbapLine.step, traced, Phase.addItems, Phase.className?]
  rw [List.flatMap_cons, List.foldl_append, declared, foldl_declarations]

theorem foldl_implementations_cons (className : Text) (classItems : List Item)
    {waiting : List Item} (present : waiting ≠ []) (first : AbapMember) (rest : List AbapMember) :
    ((first :: rest).flatMap AbapMember.implementationLines).foldl (AbapLine.step scanner)
        ⟨.pendingMethod className classItems waiting, true, []⟩ =
      ⟨.inClass className classItems, false,
        recordOf ⟨scanner.fileUrl, className, first.name⟩ classItems ++
          ⟨⟨scanner.fileUrl, className, first.name⟩, waiting⟩ ::
            laterRecords scanner.fileUrl className classItems rest⟩ := by
  have implemented : first.implementationLines.foldl (AbapLine.step scanner)
      ⟨.pendingMethod className classItems waiting, true, []⟩ =
        ⟨.inClass className classItems, false,
          recordOf ⟨scanner.fileUrl, className, first.name⟩ classItems ++
            [⟨⟨scanner.fileUrl, className, first.name⟩, waiting⟩]⟩ := by
    simp [AbapMember.implementationLines, AbapLine.step, Phase.awaitingClass?, meetMethod,
      recordsOf, Phase.classItems, Phase.methodItems, recordOf, present]
  rw [List.flatMap_cons, List.foldl_append, implemented, foldl_implementations, List.append_assoc,
    List.singleton_append]

theorem records_foldl_lines {unit : AbapUnit} (wellFormed : unit.IsWellFormed) :
    (unit.lines.foldl (AbapLine.step scanner) .start).records =
      unit.foundRecords scanner.fileUrl := by
  cases members : unit.members with
  | nil => exact absurd members wellFormed.nonempty
  | cons first rest =>
      have traced : first.items ≠ [] := wellFormed.traced first (by simp [members])
      have gathered : first.items ++ rest.flatMap AbapMember.items ≠ [] := by simp [traced]
      rw [AbapUnit.lines, foundRecords, members, List.append_cons, List.foldl_append,
        foldl_definition, List.foldl_append, foldl_declarations_cons scanner _ _ traced,
        List.foldl_cons, List.foldl_cons, AbapLine.step, AbapLine.step, List.foldl_append,
        foldl_implementations_cons scanner _ _ gathered]
      rfl

/-! ## Counting records -/

theorem length_ownRecords (unit : AbapUnit) (fileUrl : Text) :
    (unit.ownRecords fileUrl).length =
      unit.members.length * ((if unit.classItems.isEmpty then 0 else 1) + 1) := by
  simp [ownRecords, length_recordOf]

theorem length_laterRecords_le (fileUrl className : Text) (classItems : List Item)
    (members : List AbapMember) :
    (laterRecords fileUrl className classItems members).length ≤
      members.length * (if classItems.isEmpty then 0 else 1) := by
  induction members with
  | nil => simp [laterRecords]
  | cons member members inductionHypothesis =>
      have first : (if isTestName member.name then
          recordOf ⟨fileUrl, className, member.name⟩ classItems else []).length ≤
            if classItems.isEmpty then 0 else 1 := by
        split
        · rw [length_recordOf]
        · exact Nat.zero_le _
      calc (laterRecords fileUrl className classItems (member :: members)).length
          = (if isTestName member.name then
                recordOf ⟨fileUrl, className, member.name⟩ classItems else []).length +
              (laterRecords fileUrl className classItems members).length := by
            simp only [laterRecords, List.flatMap_cons, List.length_append]
        _ ≤ (if classItems.isEmpty then 0 else 1) +
              members.length * (if classItems.isEmpty then 0 else 1) :=
            Nat.add_le_add first inductionHypothesis
        _ = (member :: members).length * (if classItems.isEmpty then 0 else 1) := by
            rw [List.length_cons, Nat.succ_mul, Nat.add_comm]

theorem foundRecords_eq_ownRecords {unit : AbapUnit} (single : unit.members.length = 1)
    (fileUrl : Text) : unit.foundRecords fileUrl = unit.ownRecords fileUrl := by
  obtain ⟨member, members⟩ := List.length_eq_one_iff.1 single
  simp [foundRecords, ownRecords, members, laterRecords]

theorem length_foundRecords_lt {unit : AbapUnit} (several : 1 < unit.members.length)
    (fileUrl : Text) :
    (unit.foundRecords fileUrl).length < (unit.ownRecords fileUrl).length := by
  rw [length_ownRecords]
  cases members : unit.members with
  | nil => simp [members] at several
  | cons first rest =>
      rw [members, List.length_cons] at several
      have later := length_laterRecords_le fileUrl unit.className unit.classItems rest
      rw [foundRecords, members]
      simp only [List.length_append, List.length_cons, length_recordOf]
      rw [Nat.mul_add, Nat.succ_mul]
      omega

/-- The scan of a unit finds its records with all items at the first method.
Every method keeps its own items exactly when there is one method. -/
theorem scan_keeps_own_items_iff {unit : AbapUnit} (wellFormed : unit.IsWellFormed)
    (fileUrl : Text) :
    (ofLanguage .abap fileUrl).scan (unit.lines.map AbapLine.text) =
        .ok (unit.foundRecords fileUrl) ∧
      ((ofLanguage .abap fileUrl).scan (unit.lines.map AbapLine.text) =
          .ok (unit.ownRecords fileUrl) ↔
        unit.members.length = 1) := by
  have found : (ofLanguage .abap fileUrl).scan (unit.lines.map AbapLine.text) =
      .ok (unit.foundRecords fileUrl) := by
    rw [scan, AbapLine.feedAll_map_text fileUrl .start wellFormed.lines]
    exact congrArg Except.ok (records_foldl_lines (ofLanguage .abap fileUrl) wellFormed)
  refine ⟨found, ?_⟩
  rw [found]
  constructor
  · intro own
    refine Decidable.byContradiction fun several => ?_
    have positive : 0 < unit.members.length := List.length_pos_iff.2 wellFormed.nonempty
    have fewer := length_foundRecords_lt (show 1 < unit.members.length by omega) fileUrl
    rw [Except.ok.inj own] at fewer
    exact absurd fewer (Nat.lt_irrefl _)
  · intro single
    rw [foundRecords_eq_ownRecords single]

/-- One method, and an item for the whole class. -/
def oneMethod : AbapUnit where
  comments := [[⟨"A-1".toList, .jira⟩]]
  className := "ltc".toList
  members := [⟨"first".toList, [⟨"A-2".toList, .jira⟩]⟩]

/-- The only method of a class keeps its items. -/
theorem scan_keeps_own_items_oneMethod :
    oneMethod.IsWellFormed ∧ oneMethod.members.length = 1 ∧
      (ofLanguage .abap "a.abap".toList).scan (oneMethod.lines.map AbapLine.text) =
        .ok (oneMethod.ownRecords "a.abap".toList) := by
  have wellFormed : oneMethod.IsWellFormed := by
    refine ⟨?_, ?_, ?_, ?_, ?_, ?_, ?_⟩
    · decide
    · decide +kernel
    · decide
    · decide
    · decide +kernel
    · decide
    · decide
  exact ⟨wellFormed, rfl, (scan_keeps_own_items_iff wellFormed _).2.2 rfl⟩

/-- Two methods, each with an item. -/
def twoMethods : AbapUnit where
  comments := []
  className := "ltc".toList
  members := [⟨"first".toList, [⟨"A-1".toList, .jira⟩]⟩, ⟨"second".toList, [⟨"A-2".toList, .jira⟩]⟩]

/-- The first of two methods takes the items of both. -/
theorem not_scan_keeps_own_items_twoMethods :
    twoMethods.IsWellFormed ∧ (twoMethods.members.map AbapMember.name).Nodup ∧
      (ofLanguage .abap "a.abap".toList).scan (twoMethods.lines.map AbapLine.text) ≠
        .ok (twoMethods.ownRecords "a.abap".toList) := by
  refine ⟨⟨?_, ?_, ?_, ?_, ?_, ?_, ?_⟩, by decide, ?_⟩
  · decide
  · decide +kernel
  · decide
  · decide
  · decide +kernel
  · decide
  · decide
  · have found : (ofLanguage .abap "a.abap".toList).scan (twoMethods.lines.map AbapLine.text) =
        .ok [⟨⟨"a.abap".toList, "ltc".toList, "first".toList⟩,
          [⟨"A-1".toList, .jira⟩, ⟨"A-2".toList, .jira⟩]⟩] := rfl
    rw [found]
    intro own
    exact absurd (congrArg List.length (Except.ok.inj own)) (by decide)

end AbapUnit

end BacklogTrace
