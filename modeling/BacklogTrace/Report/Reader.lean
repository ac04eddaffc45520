import BacklogTrace.Backlog.Record
import BacklogTrace.Json.Reader

/-!
Contract: reading the records of a JSON report back.

A record is an object whose parts are found by their names, in whatever order they
stand. A ticket system is read by its tag as it is written, in this case of its
letters only.

Owns: `Report.readRecords?`.

Does not own: JSON itself (`Json.read?`), how a report is written (`Report.json`).
-/

namespace BacklogTrace.Report

def member? (name : String) : Json → Option Json
  | .object members => members.lookup name.toList
  | .null | .boolean _ | .number _ | .string _ | .array _ => none

def text? : Json → Option Text
  | .string content => some content
  | .null | .boolean _ | .number _ | .array _ | .object _ => none

def elements? : Json → Option (List Json)
  | .array elements => some elements
  | .null | .boolean _ | .number _ | .string _ | .object _ => none

/-- The system with this very tag. -/
def sourceOf? (tag : Text) : Option Source :=
  if tag = Source.jira.tag then some .jira
  else if tag = Source.gitHub.tag then some .gitHub
  else none

def itemOf? (value : Json) : Option Item := do
  let id ← (member? "id" value).bind text?
  let source ← ((member? "source" value).bind text?).bind sourceOf?
  return ⟨id, source⟩

def testOf? (value : Json) : Option TestMethod := do
  let fileUrl ← (member? "file_url" value).bind text?
  let className ← (member? "class_name" value).bind text?
  let method ← (member? "method" value).bind text?
  return ⟨fileUrl, className, method⟩

def recordOf? (value : Json) : Option Record := do
  let test ← (member? "test" value).bind testOf?
  let elements ← (member? "backlog_items" value).bind elements?
  let items ← elements.mapM itemOf?
  return ⟨test, items⟩

def recordsOf? (value : Json) : Option (List Record) := do
  let elements ← elements? value
  elements.mapM recordOf?

/-- The records that a JSON report shows. -/
def readRecords? (report : Text) : Option (List Record) :=
  (Json.read? report).bind recordsOf?

end BacklogTrace.Report
