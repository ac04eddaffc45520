import BacklogTrace.Harvest.Basic
import BacklogTrace.Json.Printer
import BacklogTrace.Report.Colour

/-!
Contract: the report of a harvest, for readers or for programs.

A text report has two lines for each record: the method and its items, then the
link. A JSON report is the list of records with all of their fields. Either
shows the records alone, in order; only a text report has colours.

Assumes: records can always be serialised. A serialiser refuses values that have no
JSON form, and the fields of a record are texts and lists, which all have one; that a
run could fail with `Failed to serialize scan results` is left out.

Owns: `Report.Format`, `Report.render`.

Does not own: where a report goes (`Run`).
-/

namespace BacklogTrace.Report

/-- For whom a report is. -/
inductive Format where
  | text
  | json
deriving DecidableEq, Repr

def recordLines (coloured : Bool) (record : Record) : Text :=
  "  ".toList ++ Style.green.wrap coloured ['-'] ++
    ' ' :: Style.cyan.wrap coloured record.test.className ++
    '.' :: record.test.method ++ " -> ".toList ++
    Style.yellow.wrap coloured (Item.shownList record.items) ++
    "\n      ".toList ++ Style.dimmed.wrap coloured record.test.fileUrl ++ ['\n']

def heading (coloured : Bool) (count : Nat) : Text :=
  Style.bold.wrap coloured "##".toList ++ " Traced tests (".toList ++
    Text.ofNat count ++ ")\n".toList

/-- The report for readers. -/
def text (coloured : Bool) (records : List Record) : Text :=
  heading coloured records.length ++
    if records.isEmpty then
      "  No test methods with trace markers found\n".toList
    else
      '\n' :: records.flatMap (recordLines coloured)

def itemValue (item : Item) : Json :=
  .object [("id".toList, .string item.id), ("source".toList, .string item.source.tag)]

def testValue (test : TestMethod) : Json :=
  .object
    [("file_url".toList, .string test.fileUrl),
     ("class_name".toList, .string test.className),
     ("method".toList, .string test.method)]

def recordValue (record : Record) : Json :=
  .object
    [("test".toList, testValue record.test),
     ("backlog_items".toList, .array (record.items.map itemValue))]

/-- The report for programs. Serialising records is assumed never to fail. -/
def json (records : List Record) : Text :=
  (Json.array (records.map recordValue)).pretty

def render (format : Format) (coloured : Bool) (harvest : Harvest) : Text :=
  match format with
  | .text => text coloured harvest.records
  | .json => json harvest.records

end BacklogTrace.Report
