import Mathlib.Data.List.Chain
import BacklogTrace.Dialect.Abap
import BacklogTrace.Proofs.Marker

/-!
Contract: what the recognizers of ABAP answer on the lines of a test class.

The lines are those of a class definition, a declaration and an implementation,
for any names, and the comment that lists items. Of each line the three
recognizers and the reader of markers are asked; only a definition opens a
class, and the declaration of a method is a marker line but no signature.

Owns: `AbapLine`, the answers on its lines.

Does not own: a whole file of such lines (`Proofs.Scan.AbapUnit`).
-/

namespace BacklogTrace

/-- A name of letters, digits and underscores. -/
def IsAbapName (name : Text) : Prop :=
  name ≠ [] ∧ name.all Text.isWordCharacter = true

instance (name : Text) : Decidable (IsAbapName name) :=
  inferInstanceAs (Decidable (_ ∧ _))

theorem IsAbapName.isSolid {name : Text} (proper : IsAbapName name) : Text.IsSolid name :=
  Text.isSolid_of_isWordCharacter (List.all_eq_true.1 proper.2)

/-- The signs of the lines below stand in no name. -/
theorem IsAbapName.not_mem {name : Text} (proper : IsAbapName name) {sign : Char}
    (listed : sign ∈ [' ', '.', '(']) : sign ∉ name := by
  intro member
  have foreign : [' ', '.', '('].all (fun sign => !Text.isWordCharacter sign) = true := by
    decide +kernel
  have notWord := List.all_eq_true.1 foreign sign listed
  rw [List.all_eq_true.1 proper.2 sign member] at notWord
  exact absurd notWord (by decide)

/-- The lines of a test class. -/
inductive AbapLine where
  | comment (items : List Item)
  /-- The first line of the declarations of a class. -/
  | definition (className : Text)
  | declaration (name : Text)
  /-- The first line of the methods of a class. -/
  | implementation (className : Text)
  | method (name : Text)
  | endOfMethod
  | endOfClass
deriving DecidableEq, Repr

namespace AbapLine

/-- A line as it is written. -/
def text : AbapLine → Text
  | .comment items => "* ".toList ++ Marker.opening ++ Item.shownList items ++ [')']
  | .definition className => "CLASS ".toList ++ (className ++ " DEFINITION FOR TESTING.".toList)
  | .declaration name => "METHODS: ".toList ++ (name ++ " FOR TESTING.".toList)
  | .implementation className => "CLASS ".toList ++ (className ++ " IMPLEMENTATION.".toList)
  | .method name => "METHOD ".toList ++ (name ++ ['.'])
  | .endOfMethod => "ENDMETHOD.".toList
  | .endOfClass => "ENDCLASS.".toList

/-- Items have the form of their systems, and names are names. -/
def IsWellFormed : AbapLine → Prop
  | .comment items => ∀ item ∈ items, item.isWellFormed = true
  | .definition className => IsAbapName className ∧ className ≠ "DEFINITION".toList
  | .declaration name | .implementation name | .method name => IsAbapName name
  | .endOfMethod | .endOfClass => True

def class? : AbapLine → Option Text
  | .definition className => some className
  | _ => none

def marks : AbapLine → Bool
  | .definition _ | .declaration _ => true
  | _ => false

def items : AbapLine → List Item
  | .comment items => items
  | _ => []

def method? : AbapLine → Option Text
  | .method name => some name
  | _ => none

variable {name : Text}

/-! ## Classes and signatures -/

theorem abapClassStart_definition (proper : IsAbapName name)
    (other : name ≠ "DEFINITION".toList) :
    Dialect.abapClassStart (definition name).text = some name := by
  have rest : Dialect.afterKeyword? "CLASS ".toList (definition name).text =
      some (name ++ ' ' :: "DEFINITION FOR TESTING.".toList) := rfl
  have defines : ((Text.words "DEFINITION FOR TESTING.".toList).any
      fun word => Dialect.dropPeriods word == "DEFINITION".toList) = true := by decide
  rw [Dialect.abapClassStart, rest]
  dsimp only
  rw [Text.words_append_cons proper.isSolid proper.1 (by decide)]
  dsimp only
  rw [defines, Bool.true_and, if_pos (bne_iff_ne.2 other)]

theorem abapClassStart_implementation (proper : IsAbapName name) :
    Dialect.abapClassStart (implementation name).text = none := by
  have rest : Dialect.afterKeyword? "CLASS ".toList (implementation name).text =
      some (name ++ ' ' :: "IMPLEMENTATION.".toList) := rfl
  have defines : ((Text.words "IMPLEMENTATION.".toList).any
      fun word => Dialect.dropPeriods word == "DEFINITION".toList) = false := by decide
  rw [Dialect.abapClassStart, rest]
  dsimp only
  rw [Text.words_append_cons proper.isSolid proper.1 (by decide)]
  dsimp only
  rw [defines, Bool.false_and, if_neg (by decide)]

theorem abapClassStart_text {line : AbapLine} (wellFormed : line.IsWellFormed) :
    Dialect.abapClassStart line.text = line.class? := by
  cases line with
  | definition => exact abapClassStart_definition wellFormed.1 wellFormed.2
  | implementation => exact abapClassStart_implementation wellFormed
  | comment => rfl
  | declaration => rfl
  | method => rfl
  | endOfMethod => rfl
  | endOfClass => rfl

theorem abapMethodSignature_method (proper : IsAbapName name) :
    Dialect.abapMethodSignature (method name).text = some name := by
  have rest : Dialect.afterKeyword? "METHOD ".toList (method name).text =
      some (name ++ ['.']) := rfl
  have solid : Text.IsSolid (name ++ ['.']) := by
    intro character member
    rcases List.mem_append.1 member with inName | inPeriod
    · exact proper.isSolid character inName
    · rw [List.mem_singleton.1 inPeriod]
      decide
  have named : Dialect.dropPeriods (name ++ ['.']) = name := by
    rw [Dialect.dropPeriods, Sequence.dropEndWhile_append_of_forall _ _ (by simp)]
    rcases List.eq_nil_or_concat name with rfl | ⟨before, last, rfl⟩
    · rfl
    · rw [List.concat_eq_append]
      apply Sequence.dropEndWhile_append_of_not
      rw [beq_eq_false_iff_ne]
      rintro rfl
      exact proper.not_mem (show '.' ∈ [' ', '.', '('] by decide) (by simp)
  rw [Dialect.abapMethodSignature, rest]
  dsimp only
  rw [Text.words_of_isSolid solid (by simp)]
  simp [named, proper.1]

theorem abapMethodSignature_text {line : AbapLine} (wellFormed : line.IsWellFormed) :
    Dialect.abapMethodSignature line.text = line.method? := by
  cases line with
  | method => exact abapMethodSignature_method wellFormed
  | comment => rfl
  | definition => rfl
  | declaration => rfl
  | implementation => rfl
  | endOfMethod => rfl
  | endOfClass => rfl

/-! ## Markers -/

theorem text_definition (name : Text) :
    (definition name).text =
      ("CLASS ".toList ++ name ++ " DEFINITION".toList) ++ (" FOR TESTING".toList ++ ['.']) := by
  have tail : " DEFINITION FOR TESTING.".toList =
      " DEFINITION".toList ++ (" FOR TESTING".toList ++ ['.']) := by decide
  unfold text
  rw [tail, List.append_assoc, List.append_assoc]

theorem text_declaration (name : Text) :
    (declaration name).text =
      ("METHODS: ".toList ++ name) ++ (" FOR TESTING".toList ++ ['.']) := by
  have tail : " FOR TESTING.".toList = " FOR TESTING".toList ++ ['.'] := by decide
  unfold text
  rw [tail, List.append_assoc]

theorem abapTestMarker_definition (name : Text) :
    Dialect.abapTestMarker (definition name).text = true := by
  unfold Dialect.abapTestMarker
  rw [text_definition]
  exact Sequence.occursIn_append _ _ _

theorem abapTestMarker_declaration (name : Text) :
    Dialect.abapTestMarker (declaration name).text = true := by
  unfold Dialect.abapTestMarker
  rw [text_declaration]
  exact Sequence.occursIn_append _ _ _

theorem abapTestMarker_method (proper : IsAbapName name) :
    Dialect.abapTestMarker (method name).text = false := by
  have spaces : name.count ' ' = 0 := List.count_eq_zero.2 (proper.not_mem (by decide))
  have keyword : "METHOD ".toList.count ' ' = 1 := by decide
  have period : ['.'].count ' ' = 0 := by decide
  have two : " FOR TESTING".toList.count ' ' = 2 := by decide
  unfold Dialect.abapTestMarker
  -- one space against the two of a marker
  refine Sequence.occursIn_eq_false_of_count_lt ' ' ?_
  unfold text
  rw [List.count_append, List.count_append, spaces, keyword, period, two]
  decide

theorem abapTestMarker_implementation (proper : IsAbapName name) :
    Dialect.abapTestMarker (implementation name).text = false := by
  rw [Bool.eq_false_iff]
  intro marker
  obtain ⟨before, after, shape⟩ := (Sequence.occursIn_iff_isInfix _ _).1 marker
  have spaces : name.count ' ' = 0 := List.count_eq_zero.2 (proper.not_mem (by decide))
  have inMarker : " FOR TESTING".toList.count ' ' = 2 := by decide
  have inLine : (implementation name).text.count ' ' = 2 := by
    have first : "CLASS ".toList.count ' ' = 1 := by decide
    have last : " IMPLEMENTATION.".toList.count ' ' = 1 := by decide
    unfold text
    rw [List.count_append, List.count_append, spaces, first, last]
  have noneAfter : after.count ' ' = 0 := by
    have total := congrArg (List.count ' ') shape
    rw [List.count_append, List.count_append, inMarker, inLine] at total
    omega
  -- both shapes have their second space last, with different words behind it
  have inMarkerShape : (implementation name).text =
      (before ++ " FOR".toList) ++ ' ' :: ("TESTING".toList ++ after) := by
    have split : " FOR TESTING".toList = " FOR".toList ++ ' ' :: "TESTING".toList := by decide
    rw [← shape, split]
    simp only [List.append_assoc, List.cons_append]
  have inLineShape : (implementation name).text =
      ("CLASS ".toList ++ name) ++ ' ' :: "IMPLEMENTATION.".toList := by
    unfold text
    rw [List.append_assoc]
    rfl
  have plainMarker : ∀ character ∈ "TESTING".toList ++ after, (character == ' ') = false := by
    intro character member
    rw [beq_eq_false_iff_ne]
    rintro rfl
    rcases List.mem_append.1 member with inWord | inRest
    · exact absurd inWord (by decide)
    · exact List.count_eq_zero.1 noneAfter inRest
  have words : "IMPLEMENTATION.".toList = "TESTING".toList ++ after :=
    Sequence.eq_of_last_separator (· == ' ') inLineShape rfl
      (Sequence.forall_of_any_eq_false (by decide)) inMarkerShape rfl plainMarker
  have first : "IMPLEMENTATION.".toList.head? = some 'I' := by decide
  have other : ("TESTING".toList ++ after).head? = some 'T' := rfl
  rw [words, other] at first
  exact absurd first (by decide)

/-- Two characters that are not a space and the first letter of a marker. -/
def Apart (first second : Char) : Prop :=
  ¬ (first = ' ' ∧ second = 'F')

instance : DecidableRel Apart :=
  fun _ _ => inferInstanceAs (Decidable (¬ _))

theorem isChain_apart_of_not_mem {text : Text} (spaceless : ' ' ∉ text) :
    text.IsChain Apart := by
  induction text with
  | nil => exact List.isChain_nil
  | cons head tail inductionHypothesis =>
      rw [List.mem_cons, not_or] at spaceless
      refine (inductionHypothesis spaceless.2).cons fun next _ together => ?_
      exact spaceless.1 together.1.symm

theorem isChain_apart_shown {item : Item} (wellFormed : item.isWellFormed = true) :
    item.shown.IsChain Apart :=
  isChain_apart_of_not_mem (Item.not_mem_shown wellFormed (by decide) (by decide))

theorem head?_shown_ne (item : Item) : item.shown.head? ≠ some 'F' := by
  have heads : ∀ source : Source, ∃ first, source.tag.head? = some first ∧ first ≠ 'F' := by
    intro source
    cases source with
    | jira => exact ⟨'J', by decide, by decide⟩
    | gitHub => exact ⟨'G', by decide, by decide⟩
  obtain ⟨first, isFirst, other⟩ := heads item.source
  rw [Item.shown, List.head?_append, isFirst, Option.some_or]
  exact fun equal => other (Option.some.inj equal)

theorem head?_shownList_ne (items : List Item) :
    (Item.shownList items).head? ≠ some 'F' := by
  cases items with
  | nil => decide
  | cons first rest =>
      have heads : (Item.shownList (first :: rest)).head? = first.shown.head? := by
        cases rest with
        | nil => rw [Item.shownList_singleton]
        | cons second rest =>
            rw [Item.shownList_cons_cons, Item.shown]
            cases first.source <;> rfl
      rw [heads]
      exact head?_shown_ne first

theorem isChain_apart_shownList {items : List Item}
    (wellFormed : ∀ item ∈ items, item.isWellFormed = true) :
    (Item.shownList items).IsChain Apart := by
  induction items with
  | nil => exact List.isChain_nil
  | cons first rest inductionHypothesis =>
      have chainFirst := isChain_apart_shown (wellFormed first (by simp))
      cases rest with
      | nil => rwa [Item.shownList_singleton]
      | cons second rest =>
          have chainRest := inductionHypothesis fun item member => wellFormed item (by simp [member])
          -- the only space is that of the separator, and no tag begins as a marker does
          have separated : (' ' :: Item.shownList (second :: rest)).IsChain Apart := by
            refine chainRest.cons fun next isHead together => ?_
            rw [together.2] at isHead
            exact head?_shownList_ne _ isHead
          rw [Item.shownList_cons_cons]
          refine chainFirst.append (separated.cons fun next _ together => ?_) ?_
          · exact absurd together.1 (by decide)
          · rintro last - next isHead ⟨-, rfl⟩
            exact absurd isHead (by simp)

theorem isChain_apart_comment {items : List Item}
    (wellFormed : ∀ item ∈ items, item.isWellFormed = true) : (comment items).text.IsChain Apart := by
  have start : ("* ".toList ++ Marker.opening).IsChain Apart := by decide
  have list := isChain_apart_shownList wellFormed
  unfold text
  refine (start.append list ?_).append (List.isChain_singleton _) ?_
  · rintro last isLast next - ⟨rfl, -⟩
    exact absurd isLast (by decide)
  · rintro last - next isHead ⟨-, rfl⟩
    exact absurd isHead (by decide)

theorem abapTestMarker_comment {items : List Item}
    (wellFormed : ∀ item ∈ items, item.isWellFormed = true) :
    Dialect.abapTestMarker (comment items).text = false := by
  rw [Bool.eq_false_iff]
  intro marker
  obtain ⟨before, after, shape⟩ := (Sequence.occursIn_iff_isInfix _ _).1 marker
  have chain := isChain_apart_comment wellFormed
  rw [← shape] at chain
  exact absurd chain.left_of_append.right_of_append (by decide)

theorem abapTestMarker_text {line : AbapLine} (wellFormed : line.IsWellFormed) :
    Dialect.abapTestMarker line.text = line.marks := by
  cases line with
  | comment => exact abapTestMarker_comment wellFormed
  | definition className => exact abapTestMarker_definition className
  | declaration name => exact abapTestMarker_declaration name
  | implementation => exact abapTestMarker_implementation wellFormed
  | method => exact abapTestMarker_method wellFormed
  | endOfMethod => decide
  | endOfClass => decide

/-! ## Items -/

theorem extract_around_name (proper : IsAbapName name) {before after : Text}
    (unopenedBefore : '(' ∉ before) (unopenedAfter : '(' ∉ after) :
    Marker.extract (before ++ (name ++ after)) = [] := by
  apply Marker.extract_of_not_mem
  rw [List.mem_append, List.mem_append]
  rintro (inBefore | inName | inAfter)
  · exact unopenedBefore inBefore
  · exact proper.not_mem (by decide) inName
  · exact unopenedAfter inAfter

theorem extract_text {line : AbapLine} (wellFormed : line.IsWellFormed) :
    Marker.extract line.text = line.items := by
  cases line with
  | comment => exact Marker.extract_comment wellFormed
  | definition => exact extract_around_name wellFormed.1 (by decide) (by decide)
  | declaration => exact extract_around_name wellFormed (by decide) (by decide)
  | implementation => exact extract_around_name wellFormed (by decide) (by decide)
  | method => exact extract_around_name wellFormed (by decide) (by decide)
  | endOfMethod => exact Marker.extract_of_not_mem (by decide)
  | endOfClass => exact Marker.extract_of_not_mem (by decide)

/-! ## Ends -/

theorem getLast?_text (line : AbapLine) :
    line.text.getLast? = some '.' ∨ line.text.getLast? = some ')' := by
  have around : ∀ {before name after : Text}, after.getLast? = some '.' →
      (before ++ (name ++ after)).getLast? = some '.' := by
    intro before name after ends
    rw [List.getLast?_append, List.getLast?_append, ends, Option.some_or, Option.some_or]
  cases line with
  | comment => exact Or.inr List.getLast?_concat
  | definition => exact Or.inl (around (by decide))
  | declaration => exact Or.inl (around (by decide))
  | implementation => exact Or.inl (around (by decide))
  | method => exact Or.inl (around (by decide))
  | endOfMethod => exact Or.inl (by decide)
  | endOfClass => exact Or.inl (by decide)

end AbapLine

end BacklogTrace
