import BacklogTrace.Proofs.Dialect.Signature
import BacklogTrace.Proofs.Marker
import BacklogTrace.Proofs.Report.Colour
import BacklogTrace.Proofs.Scan.Invariant
import BacklogTrace.Report.Basic

/-!
Contract: a report for readers tells Java results apart, in colour or not.

Names of identifier characters hold neither a period nor a blank, written items and
links no line feed, and none of them an escape. So a report without its control
sequences is the report without colour, and each of its lines ends where the writer
ended it: the method is cut at the first period and the first blank, the items and the
link at the ends of their lines.

Owns: `Record.IsReadable`, the cuts of a written record.

Does not own: control sequences (`Proofs.Report.Colour`), reports for programs
(`Proofs.Report.Json`).
-/

namespace BacklogTrace

open BraceSignature (IsIdentifier)

/-- A record with names of identifier characters, items that are tickets, and a link
of one line without an escape. -/
structure Record.IsReadable (record : Record) : Prop where
  className : IsIdentifier record.test.className
  method : IsIdentifier record.test.method
  nonempty : record.items ≠ []
  items : ∀ item ∈ record.items, item.isWellFormed = true
  unbroken : '\n' ∉ record.test.fileUrl
  unescaped : '\x1b' ∉ record.test.fileUrl

theorem Language.IsName.isIdentifier {name : Text} (named : Language.java.IsName name) :
    IsIdentifier name :=
  ⟨named.nonempty, named.identifier rfl⟩

/-- What a scan of a Java file finds is readable if the link of the file is. -/
theorem Record.IsSound.isReadable {fileUrl : Text} {record : Record}
    (sound : record.IsSound .java fileUrl) (unbroken : '\n' ∉ fileUrl)
    (unescaped : '\x1b' ∉ fileUrl) : record.IsReadable where
  className := sound.className.isIdentifier
  method := sound.method.isIdentifier
  nonempty := sound.nonempty
  items := sound.items
  unbroken := sound.fileUrl ▸ unbroken
  unescaped := sound.fileUrl ▸ unescaped

theorem Scanner.isSound_of_scan {language : Language} {fileUrl : Text} {lines : List Text}
    {records : List Record} (found : (ofLanguage language fileUrl).scan lines = .ok records) :
    ∀ record ∈ records, record.IsSound language fileUrl := by
  rw [scan] at found
  split at found
  case h_1 => exact absurd found (by simp)
  case h_2 state run =>
    rw [← Except.ok.inj found]
    exact (isSound_of_feedAll isSound_start run).records

theorem Text.not_mem_ofNat {character : Char} (noDigit : character.isDigit = false)
    (number : Nat) : character ∉ ofNat number := by
  intro member
  have digit := Nat.isDigit_of_mem_toDigits (by decide) (by decide) member
  rw [noDigit] at digit
  exact absurd digit (by decide)

namespace Report

open Style (plain plain_cons plain_append plain_of_not_mem plain_wrap_append)

variable {record other : Record} {records others : List Record}

/-! ## Reports without colour -/

/-- The parts of the lines of a record. -/
theorem recordLines_append (coloured : Bool) (record : Record) (rest : Text) :
    recordLines coloured record ++ rest =
      "  ".toList ++ (Style.green.wrap coloured ['-'] ++ (" ".toList ++
        (Style.cyan.wrap coloured record.test.className ++ (".".toList ++
          (record.test.method ++ (" -> ".toList ++
            (Style.yellow.wrap coloured (Item.shownList record.items) ++ ("\n      ".toList ++
              (Style.dimmed.wrap coloured record.test.fileUrl ++ ("\n".toList ++ rest)))))))))) := by
  delta recordLines
  simp

/-- The lines of a record without colour, cut where they are cut again. -/
theorem recordLines_false_append (record : Record) (rest : Text) :
    recordLines false record ++ rest =
      "  - ".toList ++ (record.test.className ++ '.' :: (record.test.method ++ ' ' ::
        ("-> ".toList ++ (Item.shownList record.items ++ '\n' ::
          ("      ".toList ++ (record.test.fileUrl ++ '\n' :: rest)))))) := by
  rw [recordLines_append]
  simp [Style.wrap]

theorem plain_recordLines_append (readable : record.IsReadable) (coloured : Bool) (rest : Text) :
    plain (recordLines coloured record ++ rest) = recordLines false record ++ plain rest := by
  have inClass : '\x1b' ∉ record.test.className := readable.className.not_mem (by decide)
  have inMethod : '\x1b' ∉ record.test.method := readable.method.not_mem (by decide)
  have inItems : '\x1b' ∉ Item.shownList record.items :=
    Item.not_mem_shownList readable.items (by decide) (by decide)
  rw [recordLines_append, plain_append (by decide), plain_wrap_append _ _ (by decide),
    plain_append (by decide), plain_wrap_append _ _ inClass, plain_append (by decide),
    plain_append inMethod, plain_append (by decide), plain_wrap_append _ _ inItems,
    plain_append (by decide), plain_wrap_append _ _ readable.unescaped, plain_append (by decide),
    recordLines_append]
  simp only [Style.wrap, Bool.false_eq_true, if_false]

theorem plain_flatMap_recordLines (readable : ∀ record ∈ records, record.IsReadable)
    (coloured : Bool) :
    plain (records.flatMap (recordLines coloured)) = records.flatMap (recordLines false) := by
  induction records with
  | nil => rfl
  | cons record records inductionHypothesis =>
      obtain ⟨first, rest⟩ := List.forall_mem_cons.1 readable
      rw [List.flatMap_cons, plain_recordLines_append first, inductionHypothesis rest]
      rfl

theorem plain_heading_append (coloured : Bool) (count : Nat) (rest : Text) :
    plain (heading coloured count ++ rest) = heading false count ++ plain rest := by
  have inCount : '\x1b' ∉ Text.ofNat count := Text.not_mem_ofNat (by decide) count
  have shape : heading coloured count ++ rest =
      Style.bold.wrap coloured "##".toList ++ (" Traced tests (".toList ++
        (Text.ofNat count ++ (")\n".toList ++ rest))) := by
    simp [heading]
  rw [shape, plain_wrap_append _ _ (by decide), plain_append (by decide), plain_append inCount,
    plain_append (by decide)]
  simp [heading, Style.wrap]

/-- Without its control sequences a report is the report without colour. -/
theorem plain_text (readable : ∀ record ∈ records, record.IsReadable) (coloured : Bool) :
    plain (text coloured records) = text false records := by
  rw [text, plain_heading_append, text]
  apply congrArg
  cases records with
  | nil =>
      have clear : '\x1b' ∉ "  No test methods with trace markers found\n".toList := by decide
      exact plain_of_not_mem clear
  | cons record records =>
      change plain ('\n' :: _) = '\n' :: _
      rw [plain_cons (by decide), plain_flatMap_recordLines readable]

/-! ## What can be read off -/

/-- The lines of a record can be cut into what they were written from. -/
theorem eq_of_recordLines_append_eq {rest otherRest : Text} (readable : record.IsReadable)
    (otherReadable : other.IsReadable)
    (same : recordLines false record ++ rest = recordLines false other ++ otherRest) :
    record = other ∧ rest = otherRest := by
  rw [recordLines_false_append, recordLines_false_append] at same
  obtain ⟨className, same⟩ := Sequence.eq_of_first_separator
    (readable.className.not_mem (by decide)) (otherReadable.className.not_mem (by decide))
    (List.append_cancel_left same)
  obtain ⟨method, same⟩ := Sequence.eq_of_first_separator
    (readable.method.not_mem (by decide)) (otherReadable.method.not_mem (by decide)) same
  obtain ⟨shown, same⟩ := Sequence.eq_of_first_separator
    (Item.not_mem_shownList readable.items (by decide) (by decide))
    (Item.not_mem_shownList otherReadable.items (by decide) (by decide))
    (List.append_cancel_left same)
  obtain ⟨fileUrl, same⟩ := Sequence.eq_of_first_separator readable.unbroken
    otherReadable.unbroken (List.append_cancel_left same)
  have items : record.items = other.items := by
    rw [← Marker.readEntries_shownList readable.items, shown,
      Marker.readEntries_shownList otherReadable.items]
  refine ⟨?_, same⟩
  obtain ⟨test, _⟩ := record
  obtain ⟨otherTest, _⟩ := other
  cases test
  cases otherTest
  cases className
  cases method
  cases fileUrl
  cases items
  rfl

theorem eq_of_flatMap_recordLines_eq (readable : ∀ record ∈ records, record.IsReadable)
    (othersReadable : ∀ other ∈ others, other.IsReadable)
    (same : records.flatMap (recordLines false) = others.flatMap (recordLines false)) :
    records = others := by
  have written : ∀ (record : Record) (rest : Text), recordLines false record ++ rest ≠ [] := by
    intro record rest
    rw [recordLines_false_append]
    exact List.cons_ne_nil _ _
  induction records generalizing others with
  | nil =>
      cases others with
      | nil => rfl
      | cons other others => exact absurd same.symm (written other _)
  | cons record records inductionHypothesis =>
      cases others with
      | nil => exact absurd same (written record _)
      | cons other others =>
          obtain ⟨first, rest⟩ := List.forall_mem_cons.1 readable
          obtain ⟨otherFirst, otherRest⟩ := List.forall_mem_cons.1 othersReadable
          rw [List.flatMap_cons, List.flatMap_cons] at same
          obtain ⟨sameRecord, sameRest⟩ := eq_of_recordLines_append_eq first otherFirst same
          rw [sameRecord, inductionHypothesis rest otherRest sameRest]

/-- The heading ends with its line. -/
theorem body_eq_of_heading_append_eq {count otherCount : Nat} {body otherBody : Text}
    (same : heading false count ++ body = heading false otherCount ++ otherBody) :
    body = otherBody := by
  have line : ∀ (count : Nat) (body : Text), heading false count ++ body =
      ("## Traced tests (".toList ++ Text.ofNat count ++ [')']) ++ '\n' :: body := by
    intro count body
    simp [heading, Style.wrap]
  have unbroken : ∀ count,
      '\n' ∉ "## Traced tests (".toList ++ Text.ofNat count ++ [')'] := by
    intro count
    have inCount : '\n' ∉ Text.ofNat count := Text.not_mem_ofNat (by decide) count
    simp [inCount]
  rw [line, line] at same
  exact (Sequence.eq_of_first_separator (unbroken count) (unbroken otherCount) same).2

theorem records_eq_of_text_eq (readable : ∀ record ∈ records, record.IsReadable)
    (othersReadable : ∀ other ∈ others, other.IsReadable)
    (same : text false records = text false others) : records = others := by
  have bodies := body_eq_of_heading_append_eq same
  cases records with
  | nil =>
      cases others with
      | nil => rfl
      | cons other others => exact absurd (List.cons.inj bodies).1 (by decide)
  | cons record records =>
      cases others with
      | nil => exact absurd (List.cons.inj bodies).1 (by decide)
      | cons other others =>
          exact eq_of_flatMap_recordLines_eq readable othersReadable (List.cons.inj bodies).2

/-- Without their control sequences, reports of Java results are the same exactly if
the results are, and are the reports without colour. Whatever a Java scan finds in a
file with a link of one line, without an escape, is such a result. -/
theorem text_report_identifies_records :
    (∀ (coloured otherColoured : Bool) (harvest otherHarvest : Harvest),
      (∀ record ∈ harvest.records, record.IsReadable) →
      (∀ record ∈ otherHarvest.records, record.IsReadable) →
      (plain (render .text coloured harvest) = plain (render .text otherColoured otherHarvest) ↔
        harvest.records = otherHarvest.records)) ∧
    (∀ (coloured : Bool) (harvest : Harvest), (∀ record ∈ harvest.records, record.IsReadable) →
      plain (render .text coloured harvest) = render .text false harvest) ∧
    ∀ (fileUrl : Text) (lines : List Text) (records : List Record),
      '\n' ∉ fileUrl → '\x1b' ∉ fileUrl →
      (Scanner.ofLanguage .java fileUrl).scan lines = .ok records →
      ∀ record ∈ records, record.IsReadable := by
  have uncoloured : ∀ (coloured : Bool) (harvest : Harvest),
      (∀ record ∈ harvest.records, record.IsReadable) →
      plain (render .text coloured harvest) = render .text false harvest :=
    fun coloured _ readable => plain_text readable coloured
  refine ⟨?_, uncoloured, ?_⟩
  · intro coloured otherColoured harvest otherHarvest readable otherReadable
    rw [uncoloured coloured harvest readable, uncoloured otherColoured otherHarvest otherReadable]
    constructor
    · intro same
      exact records_eq_of_text_eq readable otherReadable same
    · intro same
      exact congrArg (text false) same
  · intro fileUrl lines records unbroken unescaped found record member
    exact (Scanner.isSound_of_scan found record member).isReadable unbroken unescaped

/-- A record that a scan of four lines finds. -/
def tracedRun : Record :=
  ⟨⟨"A.java".toList, "A".toList, "run".toList⟩, [⟨"A-1".toList, .jira⟩]⟩

/-- Two records of one method are not one record, and colour hides nothing. -/
theorem text_report_identifies_records_coloured :
    tracedRun.IsReadable ∧
      plain (render .text true ⟨[tracedRun], []⟩) =
        "## Traced tests (1)\n\n  - A.run -> Jira:A-1\n      A.java\n".toList ∧
      plain (render .text true ⟨[tracedRun], []⟩) ≠
        plain (render .text false ⟨[tracedRun, tracedRun], []⟩) := by
  obtain ⟨identifies, uncoloured, ofScan⟩ := text_report_identifies_records
  have found : (Scanner.ofLanguage .java "A.java".toList).scan
      ["class A \x7b".toList, "@Test".toList, "// Trace(Jira:A-1)".toList,
        "void run() \x7b".toList] = .ok [tracedRun] := rfl
  have readable := ofScan _ _ _ (by decide) (by decide) found
  have each := readable tracedRun List.mem_cons_self
  have twice : ∀ record ∈ [tracedRun, tracedRun], record.IsReadable :=
    List.forall_mem_cons.2 ⟨each, readable⟩
  refine ⟨each, uncoloured true ⟨[tracedRun], []⟩ readable, ?_⟩
  rw [Ne, identifies true false ⟨[tracedRun], []⟩ ⟨[tracedRun, tracedRun], []⟩ readable twice]
  decide

end Report

end BacklogTrace
