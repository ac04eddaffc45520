import BacklogTrace.Dialect.Abap
import BacklogTrace.Dialect.Java

/-!
Contract: the languages that can be scanned, with their names and file
extensions.

Owns: `Language`, `Language.ofName?`, `Language.ofExtension?`.

Does not own: what an extension is (`Path.extension?`).
-/

namespace BacklogTrace

inductive Language where
  | abap
  | java
deriving DecidableEq, Repr

namespace Language

/-- Every language, in the order in which they are tried. -/
def all : List Language := [.abap, .java]

def name : Language → Text
  | .abap => "ABAP".toList
  | .java => "Java".toList

def extensions : Language → List Text
  | .abap => ["abap".toList]
  | .java => ["java".toList]

def dialect : Language → Dialect
  | .abap => .abap
  | .java => .java

/-- The language of a name, in any case of its ASCII letters. -/
def ofName? (text : Text) : Option Language :=
  all.find? fun language => Text.eqIgnoringAsciiCase language.name text

/-- The language of a file extension, which is case-sensitive. -/
def ofExtension? (text : Text) : Option Language :=
  all.find? fun language => language.extensions.contains text

end Language

end BacklogTrace
