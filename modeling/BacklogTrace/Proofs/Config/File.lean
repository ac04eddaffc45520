import BacklogTrace.Config.File
import BacklogTrace.Proofs.FileSystem.Lookup

/-!
Contract: why a configuration file cannot be loaded.

A path that leads nowhere, a file that cannot be read or holds no text, and a text
that is no configuration are three different faults, and exclude each other.

Owns: `Config.LoadFails`.

Does not own: which texts are configurations (`Config.read?`).
-/

namespace BacklogTrace.Config

variable {fileSystem : FileSystem} {path : Path} {fault : Fault}

/-- Why loading a configuration file fails. -/
inductive LoadFails (fileSystem : FileSystem) (path : Path) : Fault → Prop
  | missing (absent : fileSystem.pathExists path = false) :
      LoadFails fileSystem path (.missingFile path)
  | unreadable (present : fileSystem.pathExists path = true)
      (unreadable : fileSystem.read? path = none) :
      LoadFails fileSystem path (.unreadableFile path)
  | noText {content : Bytes} (holds : fileSystem.read? path = some content)
      (invalid : Utf8.decodeExact? content = none) :
      LoadFails fileSystem path (.unreadableFile path)
  | malformed {content : Bytes} {text : Text} (holds : fileSystem.read? path = some content)
      (valid : Utf8.decodeExact? content = some text) (malformed : read? text = none) :
      LoadFails fileSystem path (.malformedFile path)

theorem load_eq_error_iff :
    load fileSystem path = .error fault ↔ LoadFails fileSystem path fault := by
  constructor
  · intro failed
    rw [load] at failed
    split at failed
    case isFalse absent =>
      rw [← Except.error.inj failed]
      exact .missing (eq_false_of_ne_true absent)
    case isTrue present =>
      cases holds : fileSystem.read? path with
      | none =>
          simp only [holds, Option.bind_none, Except.error.injEq] at failed
          exact failed ▸ .unreadable present holds
      | some content =>
          cases valid : Utf8.decodeExact? content with
          | none =>
              simp only [holds, Option.bind_some, valid, Except.error.injEq] at failed
              exact failed ▸ .noText holds valid
          | some text =>
              cases malformed : read? text with
              | none =>
                  simp only [holds, Option.bind_some, valid, malformed,
                    Except.error.injEq] at failed
                  exact failed ▸ .malformed holds valid malformed
              | some config => simp [holds, valid, malformed] at failed
  · intro fails
    cases fails with
    | missing absent => simp [load, absent]
    | unreadable present unreadable => simp [load, present, unreadable]
    | noText holds invalid => simp [load, FileSystem.pathExists_of_read? holds, holds, invalid]
    | malformed holds valid malformed =>
        simp [load, FileSystem.pathExists_of_read? holds, holds, valid, malformed]

end BacklogTrace.Config
