import BacklogTrace.Config.Reader
import BacklogTrace.FileSystem.Lookup

/-!
Contract: configuration files, and what can be wrong with a configuration.

A file that is missing is told from one that cannot be read, which includes one
that is no text, and from one that is no configuration.

Owns: `Config.Fault`, `Config.parse`, `Config.load`.

Does not own: which file is loaded (`Run`).
-/

namespace BacklogTrace.Config

inductive Fault where
  /-- A text is no configuration. -/
  | malformedText
  | missingFile (path : Path)
  | unreadableFile (path : Path)
  | malformedFile (path : Path)
deriving DecidableEq, Repr

/-- What is said where no configuration file is: how to make one. -/
def advice : Text :=
  "\n\nCreate a config file listing the sources to scan:\n\n\x7b\n    \"sources\": [\x7b \"local\": \".\", \"language\": \"abap\" \x7d]\n\x7d".toList

def Fault.message : Fault → Text
  | .malformedText => "Failed to parse config JSON".toList
  | .missingFile path => "Config file not found at ".toList ++ path.shown ++ advice
  | .unreadableFile path => "Failed to read config file: ".toList ++ path.shown
  | .malformedFile path => "Failed to parse config file: ".toList ++ path.shown

def parse (text : Text) : Except Fault Config :=
  match read? text with
  | none => .error .malformedText
  | some config => .ok config

def load (fileSystem : FileSystem) (path : Path) : Except Fault Config :=
  if fileSystem.pathExists path then
    match (fileSystem.read? path).bind Utf8.decodeExact? with
    | none => .error (.unreadableFile path)
    | some text =>
        match read? text with
        | none => .error (.malformedFile path)
        | some config => .ok config
  else
    .error (.missingFile path)

end BacklogTrace.Config
