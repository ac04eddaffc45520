import BacklogTrace.Scan.Input
import BacklogTrace.Path.Basic

/-!
Contract: what the scan of several files yields.

A harvest is a list of records and a list of warnings. Harvests are joined one
after the other, and each file is scanned on its own, so no file changes what
another yields.

Owns: `Harvest`, `Harvest.append`, `languageOf?`, `scanFile`, `Harvest.ofTexts`.

Does not own: files of a file system (`Harvest.Files`).
-/

namespace BacklogTrace

structure Harvest where
  records : List Record
  warnings : List Text
deriving DecidableEq, Repr

namespace Harvest

def empty : Harvest := ⟨[], []⟩

def append (first second : Harvest) : Harvest :=
  ⟨first.records ++ second.records, first.warnings ++ second.warnings⟩

instance : Append Harvest := ⟨append⟩

@[simp] theorem records_append (first second : Harvest) :
    (first ++ second).records = first.records ++ second.records := rfl

@[simp] theorem warnings_append (first second : Harvest) :
    (first ++ second).warnings = first.warnings ++ second.warnings := rfl

end Harvest

/-- The language in which the file of a path is written, provided that it is the
wanted one. -/
def languageOf? (wanted : Option Language) (path : Path) : Option Language :=
  match (path.extension?.bind Utf8.decodeExact?).bind Language.ofExtension? with
  | none => none
  | some language =>
      match wanted with
      | none => some language
      | some only => if only = language then some language else none

/-- The records of a file with the given content. -/
def scanFile (link : Path → Text) (language : Language) (path : Path) (content : Text) :
    Except ScanFault (List Record) :=
  (Scanner.ofLanguage language (link path)).scanText content

def unsupportedWarning (path : Path) : Text :=
  "Skipped ".toList ++ path.shown ++ ": unsupported file type".toList

structure SourceText where
  path : Path
  content : Text
deriving DecidableEq, Repr

namespace Harvest

def ofText (link : Path → Text) (source : SourceText) : Except ScanFault Harvest :=
  match languageOf? none source.path with
  | none => .ok ⟨[], [unsupportedWarning source.path]⟩
  | some language =>
      match scanFile link language source.path source.content with
      | .error fault => .error fault
      | .ok records => .ok ⟨records, []⟩

def ofTexts (link : Path → Text) : List SourceText → Except ScanFault Harvest
  | [] => .ok empty
  | source :: sources =>
      match ofText link source with
      | .error fault => .error fault
      | .ok first =>
          match ofTexts link sources with
          | .error fault => .error fault
          | .ok rest => .ok (first ++ rest)

end Harvest

end BacklogTrace
