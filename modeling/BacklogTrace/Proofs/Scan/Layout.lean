import BacklogTrace.Proofs.Dialect.Layout
import BacklogTrace.Proofs.Marker
import BacklogTrace.Proofs.Scan.Input

/-!
Contract: the layout of a file does not matter to a scan.

Two files are laid out alike when one comes from the other by adding layout after
lines, by indenting lines whose language allows it, and by inserting and
deleting blank lines. A scan finds the same records in both, or the same fault.
The reason is that a line that is not blank is read as it stands without the
layout at its end (`feed_eq_feedLine_trimEnd`).

Owns: `Scanner.IsRelaid`, scans of files that are laid out anew.

Does not own: what recognizers do with layout (`Proofs.Dialect.Layout`).
-/

namespace BacklogTrace

/-- A text whose line feeds are each preceded by a new carriage return. -/
def Text.withCarriageReturns (text : Text) : Text :=
  text.flatMap fun character => if character = '\n' then ['\r', '\n'] else [character]

namespace Scanner

/-- The second list of lines comes from the first by a change of layout. -/
inductive IsRelaid (mayIndent : Text → Prop) : List Text → List Text → Prop
  | nil : IsRelaid mayIndent [] []
  /-- Layout is added after a line, and before it where that is allowed. -/
  | line {indent line ending : Text} {lines others : List Text}
      (indents : Text.isAllBlank indent = true)
      (ends : Text.isAllBlank ending = true)
      (allowed : indent = [] ∨ mayIndent line)
      (rest : IsRelaid mayIndent lines others) :
      IsRelaid mayIndent (line :: lines) ((indent ++ (line ++ ending)) :: others)
  | insertion {inserted : Text} {lines others : List Text}
      (blank : Text.isAllBlank inserted = true)
      (rest : IsRelaid mayIndent lines others) :
      IsRelaid mayIndent lines (inserted :: others)
  | deletion {deleted : Text} {lines others : List Text}
      (blank : Text.isAllBlank deleted = true)
      (rest : IsRelaid mayIndent lines others) :
      IsRelaid mayIndent (deleted :: lines) others

namespace IsRelaid

variable {mayIndent : Text → Prop} {lines others : List Text}

/-- Layout added after a line alone. -/
theorem ended (line : Text) {ending : Text} (ends : Text.isAllBlank ending = true)
    (rest : IsRelaid mayIndent lines others) :
    IsRelaid mayIndent (line :: lines) ((line ++ ending) :: others) :=
  .line (show Text.isAllBlank [] = true from rfl) ends (Or.inl rfl) rest

theorem refl (lines : List Text) : IsRelaid mayIndent lines lines := by
  induction lines with
  | nil => exact .nil
  | cons line lines inductionHypothesis =>
      have kept := inductionHypothesis.ended line (show Text.isAllBlank [] = true from rfl)
      rwa [List.append_nil] at kept

end IsRelaid

variable {language : Language} {fileUrl : Text}

/-! ## One line -/

theorem feedLine_eq_of_alike {scanner : Scanner} {line other : Text}
    (alike : scanner.dialect.Alike line other)
    (items : scanner.extractor line = scanner.extractor other) (state : ScanState) :
    scanner.feedLine state line = scanner.feedLine state other := by
  have opened : scanner.openClass state line = scanner.openClass state other := by
    rw [openClass, openClass, alike.classStart]
  unfold feedLine
  dsimp only
  rw [opened, alike.testMarker, items, meetMarker, meetMarker, alike.classStart, seekMethod,
    seekMethod, alike.methodSignature]

/-- A line that is not blank is read without the layout at its end, of which its
line ending is a part. -/
theorem feed_eq_feedLine_trimEnd (state : ScanState) {line : Text}
    (written : Text.isAllBlank line = false) :
    (ofLanguage language fileUrl).feed state line =
      (ofLanguage language fileUrl).feedLine state (Text.trimEnd line) := by
  obtain ⟨ending, whole, dropped⟩ := exists_append_of_dropLineEnding line
  have endsBlank : Text.isAllBlank ending = true :=
    List.all_eq_true.2 fun character member => isBlank_of_isLineEnding (dropped character member)
  have trimmed : Text.trimEnd (dropLineEnding line) = Text.trimEnd line := by
    conv_rhs => rw [whole, Text.trimEnd_append_of_isAllBlank _ endsBlank]
  obtain ⟨layout, shape, blank⟩ := Text.exists_append_of_trimEnd (dropLineEnding line)
  rw [trimmed] at shape
  rw [← isAllBlank_dropLineEnding] at written
  rw [feed_of_not_blank _ state written, shape]
  exact feedLine_eq_of_alike (language.alike_append _ blank)
    (Marker.extract_append_of_isAllBlank _ blank) state

theorem feed_of_isAllBlank (scanner : Scanner) (state : ScanState) {line : Text}
    (blank : Text.isAllBlank line = true) : scanner.feed state line = .ok state := by
  rw [feed_eq_of_content?, content?_of_isAllBlank blank]

variable (fileUrl) in
theorem feed_relaid (state : ScanState) {indent line ending : Text}
    (indents : Text.isAllBlank indent = true) (ends : Text.isAllBlank ending = true)
    (allowed : indent = [] ∨ language.AllowsIndent line) :
    (ofLanguage language fileUrl).feed state (indent ++ (line ++ ending)) =
      (ofLanguage language fileUrl).feed state line := by
  cases blank : Text.isAllBlank line with
  | true =>
      have allBlank : Text.isAllBlank (indent ++ (line ++ ending)) = true := by
        simp only [Text.isAllBlank, List.all_append, Bool.and_eq_true] at indents ends blank ⊢
        exact ⟨indents, blank, ends⟩
      rw [feed_of_isAllBlank _ state allBlank, feed_of_isAllBlank _ state blank]
  | false =>
      have someWritten : Text.isAllBlank (line ++ ending) = false := by
        rw [Text.isAllBlank] at blank ⊢
        rw [List.all_append, blank, Bool.false_and]
      have written : Text.isAllBlank (indent ++ (line ++ ending)) = false := by
        rw [Text.isAllBlank] at someWritten ⊢
        rw [List.all_append, someWritten, Bool.and_false]
      rw [feed_eq_feedLine_trimEnd state written, feed_eq_feedLine_trimEnd state blank,
        Text.trimEnd_prepend_of_not_isAllBlank indent someWritten,
        Text.trimEnd_append_of_isAllBlank line ends]
      rcases allowed with rfl | allowed
      · rfl
      · exact feedLine_eq_of_alike (Language.alike_prepend indents allowed)
          (Marker.extract_prepend_of_isAllBlank indents _) state

/-! ## Whole files -/

theorem feedAll_eq_of_isRelaid {lines others : List Text}
    (relaid : IsRelaid language.AllowsIndent lines others) (state : ScanState) :
    (ofLanguage language fileUrl).feedAll state others =
      (ofLanguage language fileUrl).feedAll state lines := by
  induction relaid generalizing state with
  | nil => rfl
  | line indents ends allowed _ inductionHypothesis =>
      have same := feed_relaid fileUrl state indents ends allowed
      rw [feedAll, feedAll, same]
      split
      · rfl
      · exact inductionHypothesis _
  | insertion blank _ inductionHypothesis =>
      rw [feedAll_cons_of_ok _ (feed_of_isAllBlank _ state blank)]
      exact inductionHypothesis state
  | deletion blank _ inductionHypothesis =>
      rw [feedAll_cons_of_ok _ (feed_of_isAllBlank _ state blank)]
      exact inductionHypothesis state

theorem withCarriageReturns_append_lineFeed (before after : Text) :
    (before ++ '\n' :: after).withCarriageReturns =
      before.withCarriageReturns ++ '\r' :: '\n' :: after.withCarriageReturns := by
  simp [Text.withCarriageReturns]

theorem withCarriageReturns_of_not_mem {text : Text} (unbroken : '\n' ∉ text) :
    text.withCarriageReturns = text := by
  induction text with
  | nil => rfl
  | cons head tail inductionHypothesis =>
      rw [List.mem_cons, not_or] at unbroken
      have kept := inductionHypothesis unbroken.2
      unfold Text.withCarriageReturns at kept ⊢
      rw [List.flatMap_cons, kept, if_neg (Ne.symm unbroken.1)]
      rfl

/-- The pieces of a text get carriage returns at their ends. -/
theorem isRelaid_withCarriageReturns (mayIndent : Text → Prop) (text : Text) :
    IsRelaid mayIndent (Sequence.splitOn '\n' text)
      (Sequence.splitOn '\n' text.withCarriageReturns) := by
  induction text using Sequence.pieceInduction (· == '\n') with
  | last piece plain =>
      have unbroken := Sequence.forall_beq_eq_false_iff.1 plain
      rw [withCarriageReturns_of_not_mem unbroken]
      exact .refl _
  | cut piece separator rest plain hit inductionHypothesis =>
      rw [beq_iff_eq] at hit
      subst hit
      have unbroken := Sequence.forall_beq_eq_false_iff.1 plain
      have longer : '\n' ∉ piece ++ ['\r'] := by
        rw [List.mem_append, not_or]
        exact ⟨unbroken, by decide⟩
      rw [withCarriageReturns_append_lineFeed, withCarriageReturns_of_not_mem unbroken,
        Sequence.splitOn_append_cons unbroken, List.append_cons,
        Sequence.splitOn_append_cons longer]
      exact inductionHypothesis.ended piece (by decide)

/-- Neither a change of layout nor a change of line endings changes what a scan
finds, be it records or a fault. -/
theorem scan_eq_of_isRelaid (language : Language) (fileUrl : Text) :
    (∀ lines others, IsRelaid language.AllowsIndent lines others →
      (ofLanguage language fileUrl).scan others = (ofLanguage language fileUrl).scan lines) ∧
    ∀ content, (ofLanguage language fileUrl).scanText (Text.withCarriageReturns content) =
      (ofLanguage language fileUrl).scanText content := by
  have same : ∀ lines others, IsRelaid language.AllowsIndent lines others →
      (ofLanguage language fileUrl).scan others = (ofLanguage language fileUrl).scan lines := by
    intro lines others relaid
    rw [scan, scan, feedAll_eq_of_isRelaid relaid .start]
  refine ⟨same, fun content => ?_⟩
  rw [scanText_eq_scan_splitOn, scanText_eq_scan_splitOn]
  exact same _ _ (isRelaid_withCarriageReturns language.AllowsIndent content)

/-- Lines are indented, ended anew, inserted and deleted; the one that begins with
`FOR TESTING` is not indented. -/
theorem scan_eq_of_isRelaid_abap :
    IsRelaid Language.abap.AllowsIndent
        ["CLASS ltc DEFINITION".toList, "\t".toList, "FOR TESTING.".toList,
          "* Trace(Jira:A-1)".toList, "METHOD test.".toList]
        ["CLASS ltc DEFINITION\r".toList, "FOR TESTING. \u2003".toList, [],
          "\u00a0* Trace(Jira:A-1)\r\n".toList, "\tMETHOD test.".toList] ∧
      (ofLanguage .abap "a.abap".toList).scan
          ["CLASS ltc DEFINITION\r".toList, "FOR TESTING. \u2003".toList, [],
            "\u00a0* Trace(Jira:A-1)\r\n".toList, "\tMETHOD test.".toList] =
        .ok [⟨⟨"a.abap".toList, "ltc".toList, "test".toList⟩, [⟨"A-1".toList, .jira⟩]⟩] := by
  have method : IsRelaid Language.abap.AllowsIndent ["METHOD test.".toList]
      ["\tMETHOD test.".toList] :=
    @IsRelaid.line _ "\t".toList "METHOD test.".toList [] [] [] (by decide) (by decide)
      (Or.inr (show ¬ "FOR TESTING".toList <+: Text.trim "METHOD test.".toList by decide)) .nil
  have items : IsRelaid Language.abap.AllowsIndent
      ["* Trace(Jira:A-1)".toList, "METHOD test.".toList]
      ["\u00a0* Trace(Jira:A-1)\r\n".toList, "\tMETHOD test.".toList] :=
    @IsRelaid.line _ "\u00a0".toList "* Trace(Jira:A-1)".toList "\r\n".toList _ _ (by decide)
      (by decide)
      (Or.inr (show ¬ "FOR TESTING".toList <+: Text.trim "* Trace(Jira:A-1)".toList by decide))
      method
  have continued := (items.insertion (show Text.isAllBlank [] = true from rfl)).ended
    "FOR TESTING.".toList (show Text.isAllBlank " \u2003".toList = true by decide)
  have relaid := (IsRelaid.deletion (show Text.isAllBlank "\t".toList = true by decide)
    continued).ended "CLASS ltc DEFINITION".toList
      (show Text.isAllBlank "\r".toList = true by decide)
  have found : (ofLanguage .abap "a.abap".toList).scan
      ["CLASS ltc DEFINITION".toList, "\t".toList, "FOR TESTING.".toList,
        "* Trace(Jira:A-1)".toList, "METHOD test.".toList] =
      .ok [⟨⟨"a.abap".toList, "ltc".toList, "test".toList⟩, [⟨"A-1".toList, .jira⟩]⟩] := rfl
  exact ⟨relaid, ((scan_eq_of_isRelaid .abap "a.abap".toList).1 _ _ relaid).trans found⟩

end Scanner

end BacklogTrace
