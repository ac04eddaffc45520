import BacklogTrace.Dialect.Language
import BacklogTrace.Proofs.Text

/-!
Contract: the names that the languages give to classes and methods.

A name is not empty and holds no layout. ABAP takes names from words, and less
periods for methods; Java takes runs of identifier characters.

Owns: `Language.IsName`.

Does not own: which line a name is read from.
-/

namespace BacklogTrace

/-- A name that a scan of a language may report. -/
structure Language.IsName (language : Language) (name : Text) : Prop where
  nonempty : name ≠ []
  solid : Text.IsSolid name
  identifier : language = .java →
    ∀ character ∈ name, Text.isIdentifierCharacter character = true

namespace Dialect

theorem isName_abap {name : Text} (nonempty : name ≠ []) (solid : Text.IsSolid name) :
    Language.abap.IsName name :=
  ⟨nonempty, solid, fun other => absurd other (by decide)⟩

theorem isName_java {name : Text} (nonempty : name ≠ [])
    (identifier : ∀ character ∈ name, Text.isIdentifierCharacter character = true) :
    Language.java.IsName name where
  nonempty := nonempty
  solid := fun character member =>
    Text.not_isBlank_of_isIdentifierCharacter (identifier character member)
  identifier := fun _ => identifier

theorem isName_of_abapClassStart {line name : Text} (opens : abapClassStart line = some name) :
    Language.abap.IsName name := by
  unfold abapClassStart at opens
  split at opens
  · exact absurd opens (by simp)
  · split at opens
    · exact absurd opens (by simp)
    · rename_i first others words
      split at opens
      · rw [← Option.some.inj opens]
        have word := Text.nonempty_and_isSolid_of_mem_words (words ▸ List.mem_cons_self)
        exact isName_abap word.1 word.2
      · exact absurd opens (by simp)

theorem isName_of_abapMethodSignature {line name : Text}
    (declares : abapMethodSignature line = some name) : Language.abap.IsName name := by
  unfold abapMethodSignature at declares
  split at declares
  · exact absurd declares (by simp)
  · split at declares
    · exact absurd declares (by simp)
    · rename_i word others words
      split at declares
      · exact absurd declares (by simp)
      · rename_i nonempty
        rw [← Option.some.inj declares]
        have solid := (Text.nonempty_and_isSolid_of_mem_words (words ▸ List.mem_cons_self)).2
        refine isName_abap ?_ fun character member => ?_
        · rwa [List.isEmpty_iff] at nonempty
        · exact solid character (Sequence.mem_of_mem_dropEndWhile member)

theorem isName_of_javaClassStart {line name : Text} (opens : javaClassStart line = some name) :
    Language.java.IsName name := by
  unfold javaClassStart at opens
  split at opens
  · exact absurd opens (by simp)
  · split at opens
    · exact absurd opens (by simp)
    · rename_i word _
      dsimp only at opens
      split at opens
      · exact absurd opens (by simp)
      · rename_i nonempty
        rw [← Option.some.inj opens]
        refine isName_java ?_ (List.all_eq_true.1 List.all_takeWhile)
        rwa [List.isEmpty_iff] at nonempty

theorem isName_of_identifier? {text name : Text}
    (reads : BraceSignature.identifier? text = some name) : Language.java.IsName name := by
  unfold BraceSignature.identifier? at reads
  split at reads
  · rename_i identifier
    rw [← Option.some.inj reads]
    rw [BraceSignature.isIdentifier, Bool.and_eq_true, List.all_eq_true] at identifier
    refine isName_java ?_ identifier.2
    intro empty
    rw [empty] at identifier
    exact absurd identifier.1 (by decide)
  · exact absurd reads (by simp)

theorem isName_of_read {line name : Text}
    (declares : BraceSignature.read line = .ok (some name)) : Language.java.IsName name := by
  unfold BraceSignature.read at declares
  split at declares
  · exact absurd (Except.ok.inj declares) (by simp)
  · unfold BraceSignature.nameOfHead at declares
    split at declares
    · exact isName_of_identifier? (Except.ok.inj declares)
    · split at declares
      · exact absurd declares (by simp)
      · exact isName_of_identifier? (Except.ok.inj declares)

end Dialect

namespace Language

variable {language : Language} {line name : Text}

theorem isName_of_classStart (opens : language.dialect.classStart line = some name) :
    language.IsName name := by
  cases language with
  | abap => exact Dialect.isName_of_abapClassStart opens
  | java => exact Dialect.isName_of_javaClassStart opens

theorem isName_of_methodSignature
    (declares : language.dialect.methodSignature line = .ok (some name)) :
    language.IsName name := by
  cases language with
  | abap => exact Dialect.isName_of_abapMethodSignature (Except.ok.inj declares)
  | java => exact Dialect.isName_of_read declares

end Language

end BacklogTrace
