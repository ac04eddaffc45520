import BacklogTrace.Proofs.Json.Printer
import BacklogTrace.Proofs.Json.Reader
import BacklogTrace.Proofs.Traversal
import BacklogTrace.Report.Basic
import BacklogTrace.Report.Reader

/-!
Contract: a JSON report loses nothing of its records.

The report is one document of the grammar, and the value that it stands for holds
every part of every record: each part of a record is shown to be written and to be
read back, from the items upwards. Since a document stands for one value, reports
are equal exactly when their records are.

Owns: `json_report_keeps_records`, what is read back of each part of a record.

Does not own: documents (`Proofs.Json.Grammar`), reports for readers.
-/

namespace BacklogTrace.Report

open Json

/-! ## Written values -/

theorem isPrintable_itemValue (item : Item) : IsPrintable (itemValue item) := by
  apply IsPrintable.object
  simp only [List.forall_mem_cons]
  exact ⟨.string item.id, .string item.source.tag, List.forall_mem_nil _⟩

theorem isPrintable_testValue (test : TestMethod) : IsPrintable (testValue test) := by
  apply IsPrintable.object
  simp only [List.forall_mem_cons]
  exact ⟨.string test.fileUrl, .string test.className, .string test.method, List.forall_mem_nil _⟩

theorem isPrintable_recordValue (record : Record) : IsPrintable (recordValue record) := by
  apply IsPrintable.object
  simp only [List.forall_mem_cons]
  refine ⟨isPrintable_testValue record.test, .array ?_, List.forall_mem_nil _⟩
  rw [List.forall_mem_map]
  exact fun item _ => isPrintable_itemValue item

theorem isDocument_json (records : List Record) :
    IsDocument (json records) (.array (records.map recordValue)) := by
  apply isDocument_pretty
  apply IsPrintable.array
  rw [List.forall_mem_map]
  exact fun record _ => isPrintable_recordValue record

/-! ## Values that are read back -/

theorem sourceOf?_tag (source : Source) : sourceOf? source.tag = some source := by
  cases source <;> decide

theorem itemOf?_itemValue (item : Item) : itemOf? (itemValue item) = some item := by
  simp [itemOf?, itemValue, member?, text?, List.lookup_cons, sourceOf?_tag]

theorem testOf?_testValue (test : TestMethod) : testOf? (testValue test) = some test := by
  simp [testOf?, testValue, member?, text?, List.lookup_cons]

theorem recordOf?_recordValue (record : Record) :
    recordOf? (recordValue record) = some record := by
  simp [recordOf?, recordValue, member?, elements?, List.lookup_cons, testOf?_testValue,
    Traversal.mapM_map_eq_some itemOf?_itemValue]

theorem recordsOf?_array (records : List Record) :
    recordsOf? (.array (records.map recordValue)) = some records := by
  simp [recordsOf?, elements?, Traversal.mapM_map_eq_some recordOf?_recordValue]

theorem readRecords?_json (records : List Record) : readRecords? (json records) = some records := by
  rw [readRecords?, read?_of_isDocument (isDocument_json records)]
  exact recordsOf?_array records

/-- A JSON report is a document of one value, which holds the records as they are. It
shows neither warnings nor colour, and no two lists of records have the same one. -/
theorem json_report_keeps_records (coloured : Bool) (harvest : Harvest) :
    (∃ value, IsDocument (render .json coloured harvest) value ∧
      (∀ other, IsDocument (render .json coloured harvest) other → other = value) ∧
      recordsOf? value = some harvest.records) ∧
    readRecords? (render .json coloured harvest) = some harvest.records ∧
    ∀ otherColoured otherHarvest,
      render .json coloured harvest = render .json otherColoured otherHarvest ↔
        harvest.records = otherHarvest.records := by
  have document := isDocument_json harvest.records
  refine ⟨⟨_, document, fun other same => same.unique document,
    recordsOf?_array harvest.records⟩, readRecords?_json harvest.records,
    fun otherColoured otherHarvest => ⟨fun same => ?_, fun same => congrArg json same⟩⟩
  have read := readRecords?_json harvest.records
  rw [show json harvest.records = json otherHarvest.records from same, readRecords?_json] at read
  exact (Option.some.inj read).symm

end BacklogTrace.Report
