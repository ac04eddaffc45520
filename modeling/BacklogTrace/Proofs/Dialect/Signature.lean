import BacklogTrace.Proofs.Dialect.BraceSignature

/-!
Contract: which lines are signatures in braces, and of which method.

A signature is a front, a name, layout, `(`, parameters, `{` and a body. The front
holds no `(` and leaves the name alone: it is all layout, or its last character is
layout of one byte. Nothing is asked of the parameters, and the body holds no `{`.
The main statement sorts all lines by this grammar: a line is the signature of one
method, or its name would begin inside a character and reading it faults, or it is
no signature.

Reading trims the head of a line and cuts it at its last layout character; the
lemmas on heads say that this finds the name of the grammar and no other.

Owns: `BraceSignature.IsSignature`, `BraceSignature.EndsInName`.

Does not own: where the head of a line ends and which heads fault
(`Proofs.Dialect.BraceSignature`).
-/

namespace BacklogTrace.BraceSignature

/-- What stands before a name and leaves it alone: layout of any kind, or a text that
ends in layout of one byte. -/
def SetsApart (front : Text) : Prop :=
  Text.isAllBlank front = true ∨
    ∃ last, front.getLast? = some last ∧ Text.isBlank last = true ∧ last.utf8Size = 1

/-- An identifier: a name of letters, numbers, underscores and dollar signs. -/
structure IsIdentifier (name : Text) : Prop where
  nonempty : name ≠ []
  characters : ∀ character ∈ name, Text.isIdentifierCharacter character = true

/-- A line that is the signature of a method, with the name of the method. -/
inductive IsSignature : Text → Text → Prop where
  | written {front name layout parameters body : Text}
      (apart : SetsApart front)
      (unopened : '(' ∉ front)
      (named : IsIdentifier name)
      (blank : Text.isAllBlank layout = true)
      (unbraced : '\x7b' ∉ body) :
      IsSignature (front ++ name ++ layout ++ '(' :: (parameters ++ '\x7b' :: body)) name

/-- A head that ends in the name of a method, with layout behind it. -/
inductive EndsInName : Text → Text → Prop where
  | written {front name layout : Text}
      (apart : SetsApart front)
      (named : IsIdentifier name)
      (blank : Text.isAllBlank layout = true) :
      EndsInName (front ++ name ++ layout) name

/-! ## Names -/

theorem IsIdentifier.isSolid {name : Text} (named : IsIdentifier name) : Text.IsSolid name :=
  fun character member =>
    Text.not_isBlank_of_isIdentifierCharacter (named.characters character member)

theorem IsIdentifier.not_mem {name : Text} (named : IsIdentifier name) {character : Char}
    (foreign : Text.isIdentifierCharacter character = false) : character ∉ name := by
  intro member
  rw [named.characters character member] at foreign
  exact absurd foreign (by decide)

theorem identifier?_eq_some_iff {text name : Text} :
    identifier? text = some name ↔ name = text ∧ IsIdentifier name := by
  unfold identifier? isIdentifier
  constructor
  · intro reads
    split at reads
    · rename_i identifier
      rw [Bool.and_eq_true, Bool.not_eq_true', List.isEmpty_eq_false_iff, List.all_eq_true]
        at identifier
      have same : text = name := Option.some.inj reads
      subst same
      exact ⟨rfl, identifier.1, identifier.2⟩
    · exact absurd reads (by simp)
  · intro ⟨same, named⟩
    subst same
    apply if_pos
    rw [Bool.and_eq_true, Bool.not_eq_true', List.isEmpty_eq_false_iff, List.all_eq_true]
    exact ⟨named.nonempty, named.characters⟩

/-! ## Heads -/

/-- The last layout character of a trimmed head is the one before its name, unless
only layout stands before the name. -/
theorem trim_of_endsInName {front name layout : Text} (named : IsIdentifier name)
    (blank : Text.isAllBlank layout = true) {last : Char} (isBlank : Text.isBlank last = true)
    (written : Text.isAllBlank (front ++ [last]) = false) :
    ∃ inner, Text.trim (front ++ [last] ++ name ++ layout) = inner ++ last :: name := by
  -- the layout character itself is not trimmed, as something before it is left
  have partly : Text.isAllBlank front = false := by
    rw [Text.isAllBlank, List.all_append, List.all_cons, isBlank] at written
    rwa [List.all_nil, Bool.and_true, Bool.and_true] at written
  refine ⟨Text.trimStart front, ?_⟩
  calc
    Text.trim (front ++ [last] ++ name ++ layout)
        = Text.trimEnd (Text.trimStart (front ++ ([last] ++ (name ++ layout)))) := by
          rw [Text.trim, List.append_assoc, List.append_assoc]
    _ = Text.trimEnd (Text.trimStart front ++ last :: name ++ layout) := by
          rw [Text.trimStart_append_of_not_isAllBlank partly, List.append_assoc]
          rfl
    _ = Text.trimEnd (Text.trimStart front ++ [last] ++ name) := by
          rw [Text.trimEnd_append_of_isAllBlank _ blank, List.append_assoc]
          rfl
    _ = Text.trimStart front ++ [last] ++ name := by
          rw [Text.trimEnd_prepend_of_not_isAllBlank, Text.trimEnd_of_isSolid named.isSolid]
          cases name with
          | nil => exact absurd rfl named.nonempty
          | cons first others =>
              rw [Text.isAllBlank, List.all_cons, named.isSolid first List.mem_cons_self,
                Bool.false_and]
    _ = Text.trimStart front ++ last :: name := by rw [List.append_assoc]; rfl

theorem nameOfHead_of_endsInName {head name : Text} (ends : EndsInName head name) :
    nameOfHead head = .ok (some name) := by
  cases ends with
  | @written front name layout apart named blank =>
      have reads : identifier? name = some name := identifier?_eq_some_iff.2 ⟨rfl, named⟩
      cases allBlank : Text.isAllBlank front with
      | true =>
          have left : Text.trim (front ++ name ++ layout) = name :=
            Text.trim_of_isSolid_between allBlank named.isSolid blank
          have uncut : Sequence.cutLast? Text.isBlank name = none :=
            (Sequence.cutLast?_eq_none_iff _).2 named.isSolid
          rw [nameOfHead, left, uncut]
          exact congrArg _ reads
      | false =>
          obtain ⟨last, atEnd, isBlank, narrow⟩ := apart.resolve_left (by simp [allBlank])
          obtain ⟨before, rfl⟩ := List.getLast?_eq_some_iff.1 atEnd
          obtain ⟨inner, left⟩ := trim_of_endsInName named blank isBlank allBlank
          have cut : Sequence.cutLast? Text.isBlank (inner ++ last :: name) =
              some (inner, last, name) :=
            (Sequence.cutLast?_eq_some_iff _).2 ⟨rfl, isBlank, named.isSolid⟩
          have short : Text.isWideBlank last = false := by
            simp [Text.isWideBlank, isBlank, narrow]
          rw [nameOfHead, left, cut]
          simp only [short, Bool.false_eq_true, if_false, reads]

theorem endsInName_of_nameOfHead {head name : Text} (reads : nameOfHead head = .ok (some name)) :
    EndsInName head name := by
  obtain ⟨front, back, shape, frontBlank, backBlank⟩ := Text.exists_append_of_trim head
  unfold nameOfHead at reads
  split at reads
  · obtain ⟨same, named⟩ := identifier?_eq_some_iff.1 (Except.ok.inj reads)
    rw [shape, ← same]
    exact .written (.inl frontBlank) named backBlank
  · rename_i before last after cut
    obtain ⟨inner, isBlank, -⟩ := (Sequence.cutLast?_eq_some_iff _).1 cut
    split at reads
    · exact absurd reads (by simp)
    · rename_i narrow
      obtain ⟨same, named⟩ := identifier?_eq_some_iff.1 (Except.ok.inj reads)
      have size : last.utf8Size = 1 := by
        rw [Text.isWideBlank, isBlank, Bool.true_and, decide_eq_true_eq] at narrow
        have least := Char.utf8Size_pos last
        omega
      have apart : SetsApart (front ++ before ++ [last]) :=
        .inr ⟨last, List.getLast?_concat, isBlank, size⟩
      have whole : head = front ++ before ++ [last] ++ name ++ back := by
        rw [shape, inner, same]
        simp
      rw [whole]
      exact .written apart named backBlank

theorem nameOfHead_eq_some_iff {head name : Text} :
    nameOfHead head = .ok (some name) ↔ EndsInName head name :=
  ⟨endsInName_of_nameOfHead, nameOfHead_of_endsInName⟩

/-! ## Lines -/

theorem isSignature_iff {line name : Text} :
    IsSignature line name ↔ ∃ head, IsHead line head ∧ EndsInName head name := by
  constructor
  · intro signature
    cases signature with
    | @written front name layout parameters body apart unopened named blank unbraced =>
        refine ⟨front ++ name ++ layout, ⟨parameters, body, rfl, ?_, unbraced⟩,
          .written apart named blank⟩
        rw [List.mem_append, List.mem_append, not_or, not_or]
        exact ⟨⟨unopened, named.not_mem (by decide)⟩, Text.not_mem_of_isAllBlank blank (by decide)⟩
  · intro ⟨head, ⟨parameters, body, shape, unopened, unbraced⟩, ends⟩
    cases ends with
    | @written front name layout apart named blank =>
        rw [shape]
        apply IsSignature.written apart _ named blank unbraced
        intro opened
        exact unopened (List.mem_append_left layout (List.mem_append_left name opened))

theorem read_eq_some_iff {line name : Text} :
    read line = .ok (some name) ↔ IsSignature line name := by
  rw [isSignature_iff]
  unfold read
  constructor
  · intro reads
    split at reads
    · exact absurd (Except.ok.inj reads) (by simp)
    · rename_i head cut
      exact ⟨head, head?_eq_some_iff.1 cut, nameOfHead_eq_some_iff.1 reads⟩
  · intro ⟨head, isHead, ends⟩
    rw [head?_eq_some_iff.2 isHead]
    exact nameOfHead_eq_some_iff.2 ends

/-- A line is the signature of the one method that the grammar names; or it splits a
character, and reading it faults; or it is neither, and no signature is read. -/
theorem read_follows_grammar (line : Text) :
    (∀ name, read line = .ok (some name) ↔ IsSignature line name) ∧
    (∀ name other, IsSignature line name → IsSignature line other → other = name) ∧
    (read line = .error .splitCharacter ↔ SplitsCharacter line) ∧
    (read line = .ok none ↔ (∀ name, ¬ IsSignature line name) ∧ ¬ SplitsCharacter line) := by
  refine ⟨fun name => read_eq_some_iff, ?_, read_eq_error_iff, ?_⟩
  · intro name other signature otherSignature
    have reads := read_eq_some_iff.2 otherSignature
    rw [read_eq_some_iff.2 signature] at reads
    exact (Option.some.inj (Except.ok.inj reads)).symm
  · cases result : read line with
    | error fault =>
        have splits := read_eq_error_iff.1 result
        exact ⟨fun none => absurd none (by simp), fun ⟨_, unsplit⟩ => absurd splits unsplit⟩
    | ok found =>
        have unsplit : ¬ SplitsCharacter line := by
          intro splits
          have faults : read line = .error .splitCharacter := read_eq_error_iff.2 splits
          rw [faults] at result
          exact absurd result (by simp)
        cases found with
        | none =>
            refine ⟨fun _ => ⟨fun name signature => ?_, unsplit⟩, fun _ => rfl⟩
            rw [read_eq_some_iff.2 signature] at result
            exact absurd (Except.ok.inj result) (by simp)
        | some name =>
            have signature := read_eq_some_iff.1 result
            exact ⟨fun none => absurd (Except.ok.inj none) (by simp),
              fun ⟨unsigned, _⟩ => absurd signature (unsigned name)⟩

/-- Layout of two bytes before the name splits a character; behind the name it does not. -/
example :
    read "void\u00a0run() \x7b".toList = .error .splitCharacter ∧
      read "void run\u00a0() \x7b".toList = .ok (some "run".toList) := by
  decide

end BacklogTrace.BraceSignature
