import BacklogTrace.Proofs.Scan.Attribution
import BacklogTrace.Proofs.Scan.Content
import BacklogTrace.Proofs.Text.Utf8

/-!
Contract: a file gives the same records however it is handed to a scan.

The lines of a stream keep their line feeds and are decoded one by one; the
lines of a text lose theirs and one carriage return; the pieces between line
feeds keep every carriage return, and the last of them may be empty. What a
scan reads of the three is the same.

Owns: the contents of lines, pieces and decoded byte lines.

Does not own: which file is read (`Harvest.Files`).
-/

namespace BacklogTrace.Scanner

/-! ## Contents of lines, pieces and byte lines -/

theorem content?_append_lineFeed (line : Text) : content? (line ++ ['\n']) = content? line :=
  content?_append_of_forall line (List.forall_mem_singleton.2 rfl)

theorem content?_dropCarriageReturn (line : Text) :
    content? (Text.dropCarriageReturn line) = content? line := by
  unfold Text.dropCarriageReturn
  split
  · rename_i ends
    obtain ⟨before, rfl⟩ := List.getLast?_eq_some_iff.1 ends
    rw [List.dropLast_concat]
    exact (content?_append_of_forall before (List.forall_mem_singleton.2 rfl)).symm
  · rfl

theorem contents_linesOfPieces (pieces : List Text) :
    (Text.linesOfPieces pieces).filterMap content? = pieces.filterMap content? := by
  induction pieces with
  | nil => rfl
  | cons piece rest inductionHypothesis =>
      cases rest with
      | nil =>
          cases piece with
          | nil => rfl
          | cons head tail => rfl
      | cons next rest =>
          change (Text.dropCarriageReturn piece :: Text.linesOfPieces (next :: rest)).filterMap
            content? = _
          rw [List.filterMap_cons, List.filterMap_cons, content?_dropCarriageReturn,
            inductionHypothesis]

theorem contents_lines (text : Text) :
    (Text.lines text).filterMap content? =
      (Sequence.splitOn '\n' text).filterMap content? :=
  contents_linesOfPieces (Sequence.splitOn '\n' text)

/-- Decoding line by line reads what decoding the whole reads. -/
theorem contents_byteLines (bytes : Bytes) :
    ((Utf8.byteLines bytes).map Utf8.decode).filterMap content? =
      (Sequence.splitOn '\n' (Utf8.decode bytes)).filterMap content? := by
  have unbroken : ∀ piece : Bytes, (∀ byte ∈ piece, (byte == 0x0a) = false) →
      '\n' ∉ Utf8.decode piece := by
    intro piece plain
    exact Utf8.lineFeed_not_mem_decode (Sequence.forall_beq_eq_false_iff.1 plain)
  unfold Utf8.byteLines
  induction bytes using Sequence.pieceInduction (fun byte : UInt8 => byte == 0x0a) with
  | last piece plain =>
      rw [Sequence.splitAfter_of_forall _ plain, Sequence.splitOn_of_not_mem (unbroken piece plain)]
      cases piece with
      | nil => rfl
      | cons head tail => rfl
  | cut piece separator rest plain hit inductionHypothesis =>
      rw [beq_iff_eq] at hit
      subst hit
      have line : Utf8.decode (piece ++ [0x0a]) = Utf8.decode piece ++ ['\n'] :=
        Utf8.decode_append_lineFeed piece []
      rw [Sequence.splitAfter_append_cons _ plain rfl, Utf8.decode_append_lineFeed,
        Sequence.splitOn_append_cons (unbroken piece plain), List.map_cons, List.filterMap_cons,
        List.filterMap_cons, line, content?_append_lineFeed, inductionHypothesis]

/-! ## Scans -/

variable (scanner : Scanner)

theorem scan_eq_of_contents {lines others : List Text}
    (same : lines.filterMap content? = others.filterMap content?) :
    scanner.scan lines = scanner.scan others := by
  rw [scan, scan, feedAll_eq_of_contents scanner .start same]

/-- A text is scanned as its pieces between line feeds, whether or not the scan
faults. -/
theorem scanText_eq_scan_splitOn (content : Text) :
    scanner.scanText content = scanner.scan (Sequence.splitOn '\n' content) :=
  scanner.scan_eq_of_contents (contents_lines content)

theorem scan_byteLines_eq_scanText (bytes : Bytes) :
    scanner.scan ((Utf8.byteLines bytes).map Utf8.decode) =
      scanner.scanText (Utf8.decode bytes) := by
  rw [scanText_eq_scan_splitOn]
  exact scanner.scan_eq_of_contents (contents_byteLines bytes)

/-- Whatever the bytes of a file are, a scan with a total dialect finds the same
records in the stream of its bytes, in the text decoded from them, and in the
pieces of that text. A stream that breaks off after the same bytes gives an error
for the file instead. -/
theorem scanStream_agrees_with_scanText
    (scanner : Scanner)
    (total : scanner.IsTotal)
    (bytes : Bytes) :
    ∃ records,
      scanner.scanStream ⟨bytes, false⟩ = .ok records ∧
        scanner.scanText (Utf8.decode bytes) = .ok records ∧
          scanner.scan (Sequence.splitOn '\n' (Utf8.decode bytes)) = .ok records ∧
            scanner.scanStream ⟨bytes, true⟩ = .error (.unreadableLine scanner.fileUrl) := by
  obtain ⟨records, found⟩ :=
    exists_scan_eq_ok total (Sequence.splitOn '\n' (Utf8.decode bytes))
  have inText : scanner.scanText (Utf8.decode bytes) = .ok records := by
    rw [scanText_eq_scan_splitOn, found]
  have inStream : scanner.scanStream ⟨bytes, false⟩ = .ok records := by
    have lines : readableLines ⟨bytes, false⟩ = Utf8.byteLines bytes := rfl
    rw [scanStream, lines, scan_byteLines_eq_scanText, inText]
    rfl
  have broken : scanner.scanStream ⟨bytes, true⟩ = .error (.unreadableLine scanner.fileUrl) := by
    obtain ⟨early, read⟩ :=
      exists_scan_eq_ok total ((readableLines ⟨bytes, true⟩).map Utf8.decode)
    rw [scanStream, read]
    rfl
  exact ⟨records, inStream, inText, found, broken⟩

/-- A file with a byte of another encoding in the name of its class, a character
that a line feed cuts short, line endings of both kinds, and none at its end. -/
def mixedBytes : Bytes :=
  Utf8.encode "CLASS ltc".toList ++ 0xe9 :: Utf8.encode " DEFINITION FOR TESTING.\r\n".toList ++
    Utf8.encode "* Trace(Jira:A-1) ".toList ++ [0xe2, 0x82] ++ Utf8.encode "\n\r\n".toList ++
      Utf8.encode "METHOD test.".toList

theorem scanStream_agrees_with_scanText_mixedBytes :
    (ofLanguage .abap "a.abap".toList).IsTotal ∧
      (ofLanguage .abap "a.abap".toList).scanStream ⟨mixedBytes, false⟩ =
        .ok [⟨⟨"a.abap".toList, "ltc\ufffd".toList, "test".toList⟩, [⟨"A-1".toList, .jira⟩]⟩] ∧
      (ofLanguage .abap "a.abap".toList).scanStream ⟨mixedBytes, true⟩ =
        .error (.unreadableLine "a.abap".toList) := by
  have total : (ofLanguage .abap "a.abap".toList).IsTotal := fun _ => ⟨_, rfl⟩
  obtain ⟨records, inStream, inText, -, broken⟩ :=
    scanStream_agrees_with_scanText (ofLanguage .abap "a.abap".toList) total mixedBytes
  have found : (ofLanguage .abap "a.abap".toList).scanText (Utf8.decode mixedBytes) =
      .ok [⟨⟨"a.abap".toList, "ltc\ufffd".toList, "test".toList⟩, [⟨"A-1".toList, .jira⟩]⟩] := rfl
  rw [found] at inText
  rw [← Except.ok.inj inText] at inStream
  exact ⟨total, inStream, broken⟩

end BacklogTrace.Scanner
