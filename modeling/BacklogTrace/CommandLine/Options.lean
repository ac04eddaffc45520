import BacklogTrace.Dialect.Language
import BacklogTrace.Path.Basic
import BacklogTrace.Report.Basic

/-!
Contract: what a command line asks for.

Owns: `CommandLine.Options`, `CommandLine.Request`, the names of options.

Does not own: how a command line is written (`CommandLine.Reader`).
-/

namespace BacklogTrace.CommandLine

structure Options where
  /-- The file or directory to scan, unless a configuration is given. -/
  path : Path
  config : Option Path
  language : Option Language
  included : List Text
  excluded : List Text
  gitHubBaseUrl : Option Text
  organization : Option Text
  repository : Option Text
  branch : Option Text
  format : Report.Format
  output : Option Path
  verbose : Bool
deriving DecidableEq, Repr

inductive Request where
  | run (options : Options)
  | help
  | version
deriving DecidableEq, Repr

/-- The options that take a value. -/
inductive Setting where
  | config
  | language
  | include'
  | exclude
  | gitHubBaseUrl
  | organization
  | repository
  | branch
  | format
  | output
deriving DecidableEq, Repr

/-- The options that take none. -/
inductive Switch where
  | verbose
  | help
  | version
deriving DecidableEq, Repr

inductive Flag where
  | setting (setting : Setting)
  | switch (switch : Switch)
deriving DecidableEq, Repr

def longFlags : List (Text × Flag) :=
  [("config".toList, .setting .config),
   ("language".toList, .setting .language),
   ("include".toList, .setting .include'),
   ("exclude".toList, .setting .exclude),
   ("github-base-url".toList, .setting .gitHubBaseUrl),
   ("organization".toList, .setting .organization),
   ("repository".toList, .setting .repository),
   ("branch".toList, .setting .branch),
   ("format".toList, .setting .format),
   ("output".toList, .setting .output),
   ("verbose".toList, .switch .verbose),
   ("help".toList, .switch .help),
   ("version".toList, .switch .version)]

def shortFlags : List (Char × Flag) :=
  [('c', .setting .config),
   ('l', .setting .language),
   ('f', .setting .format),
   ('o', .setting .output),
   ('v', .switch .verbose),
   ('h', .switch .help),
   ('V', .switch .version)]

end BacklogTrace.CommandLine
