import BacklogTrace.Dialect.Language
import BacklogTrace.Location

/-!
Contract: a list of source trees to scan, and where their files are linked.

A source names its checkout relative to the directory of the configuration. It
may be limited to one language and to the files that pass its patterns, and it
may say where the checkout is hosted.

Owns: `Config`, `SourceEntry`, `Hosting`, the root, the language and the
location of a source.

Does not own: the written form (`Config.Reader`), configuration files
(`Config.File`).
-/

namespace BacklogTrace

structure Hosting where
  organization : Text
  repository : Text
  branch : Option Text
deriving DecidableEq, Repr

structure SourceEntry where
  /-- The checkout, relative to the directory of the configuration. -/
  localPath : Text
  /-- The name of the only language to scan. -/
  languageName : Option Text
  hosting : Option Hosting
  included : List Text
  excluded : List Text
deriving DecidableEq, Repr

structure Config where
  gitHubBaseUrl : Option Text
  sources : List SourceEntry
deriving DecidableEq, Repr

namespace SourceEntry

def root (source : SourceEntry) (directory : Path) : Path :=
  directory.join (.ofText source.localPath)

/-- A language that has no dialect, and the source that names it. -/
structure UnknownLanguage where
  name : Text
  localPath : Text
deriving DecidableEq, Repr

def UnknownLanguage.message (unknown : UnknownLanguage) : Text :=
  "Unknown language '".toList ++ unknown.name ++ "' for source ".toList ++ unknown.localPath

def language (source : SourceEntry) : Except UnknownLanguage (Option Language) :=
  match source.languageName with
  | none => .ok none
  | some name =>
      match Language.ofName? name with
      | none => .error ⟨name, source.localPath⟩
      | some language => .ok (some language)

/-- How the files of a source are linked, with the given root and host. -/
def location (source : SourceEntry) (root : Path) (baseUrl : Option Text) : Location :=
  match source.hosting with
  | none => .below root
  | some hosting =>
      .hosted (.make hosting.organization hosting.repository baseUrl hosting.branch) root

end SourceEntry

end BacklogTrace
