import BacklogTrace.Config.Basic
import BacklogTrace.Json.Number

/-!
Contract: reading a configuration.

A configuration is a JSON object. Members with other names are skipped; a known
one may occur once. A text may be written as a number, and as null where it is
required, for the empty text. What is optional may be missing or null, and a
list may be missing.

Owns: `Config.ofJson?`, `Config.read?`.

Does not own: JSON itself (`Json.read?`), what a number's text is
(`Json.numberText?`).
-/

namespace BacklogTrace.Config

/-- How often an object has a member. -/
inductive Occurrence where
  | missing
  | once (value : Json)
  | repeated
deriving Repr

def occurrence (members : List (Text × Json)) (name : Text) : Occurrence :=
  match members.filter fun member => member.1 == name with
  | [] => .missing
  | [member] => .once member.2
  | _ :: _ :: _ => .repeated

/-- A text that has to be there. -/
def readText? : Json → Option Text
  | .string content => some content
  | .number literal => Json.numberText? literal
  | .null => some []
  | .boolean _ | .array _ | .object _ => none

/-- A text that may be null. -/
def readOptionalText? : Json → Option (Option Text)
  | .null => some none
  | value => (readText? value).map some

def readTexts? : Json → Option (List Text)
  | .array elements => elements.mapM readText?
  | .null | .boolean _ | .number _ | .string _ | .object _ => none

/-- A member that has to be there. -/
def required? {α : Type} (read : Json → Option α) (members : List (Text × Json))
    (name : String) : Option α :=
  match occurrence members name.toList with
  | .once value => read value
  | .missing | .repeated => none

/-- A member that may be missing. -/
def optional? {α : Type} (missing : α) (read : Json → Option α) (members : List (Text × Json))
    (name : String) : Option α :=
  match occurrence members name.toList with
  | .once value => read value
  | .missing => some missing
  | .repeated => none

def readHosting? : Json → Option (Option Hosting)
  | .null => some none
  | .object members => do
      let organization ← required? readText? members "organization"
      let repository ← required? readText? members "repository"
      let branch ← optional? none readOptionalText? members "branch"
      return some ⟨organization, repository, branch⟩
  | .boolean _ | .number _ | .string _ | .array _ => none

def readSource? : Json → Option SourceEntry
  | .object members => do
      let localPath ← required? readText? members "local"
      let languageName ← optional? none readOptionalText? members "language"
      let hosting ← optional? none readHosting? members "git"
      let included ← optional? [] readTexts? members "include"
      let excluded ← optional? [] readTexts? members "exclude"
      return ⟨localPath, languageName, hosting, included, excluded⟩
  | .null | .boolean _ | .number _ | .string _ | .array _ => none

def readSources? : Json → Option (List SourceEntry)
  | .array elements => elements.mapM readSource?
  | .null | .boolean _ | .number _ | .string _ | .object _ => none

/-- The configuration that a JSON value stands for. -/
def ofJson? : Json → Option Config
  | .object members => do
      let gitHubBaseUrl ← optional? none readOptionalText? members "github_base_url"
      let sources ← required? readSources? members "sources"
      return ⟨gitHubBaseUrl, sources⟩
  | .null | .boolean _ | .number _ | .string _ | .array _ => none

def read? (text : Text) : Option Config :=
  (Json.read? text).bind ofJson?

end BacklogTrace.Config
