import BacklogTrace.Config.Reader
import BacklogTrace.Proofs.Traversal

/-!
Contract: the fields of an object of a configuration, and how they are read.

An object shows its fields in any order, with members of other names between them.
Which values it has under the name of a field does not depend on the order, and
decides what is read for the field; no other property of the members is used where
a kind of object is read.

Owns: `HasFields`, `WritesOptional`, `WritesTexts`, `Flawed`, when `required?` and
`optional?` give a value.

Does not own: which objects there are (`Proofs.Config.Written`).
-/

namespace BacklogTrace.Config

open Json

/-! ## Objects and their fields -/

/-- A field of an object, with the values that are given for it. -/
structure Field where
  name : String
  values : List Json

def Field.asMembers (field : Field) : List (Text × Json) :=
  field.values.map fun value => (field.name.toList, value)

/-- A value is an object of these fields, in any order, and of further members that
have none of their names. -/
inductive HasFields (fields : List Field) : Json → Prop
  | object {members further : List (Text × Json)}
      (ordered : members.Perm (fields.flatMap Field.asMembers ++ further))
      (foreign : ∀ member ∈ further, ∀ field ∈ fields, member.1 ≠ field.name.toList) :
      HasFields fields (.object members)

/-- The values for what may be missing or null. -/
inductive WritesOptional {α : Type} (writes : α → Json → Prop) : Option α → List Json → Prop
  | absent : WritesOptional writes none []
  | null : WritesOptional writes none [.null]
  | present {content : α} {value : Json} (written : writes content value) :
      WritesOptional writes (some content) [value]

/-- The values for a list of texts, which may be missing if it is empty. -/
inductive WritesTexts : List Text → List Json → Prop
  | absent : WritesTexts [] []
  | array (texts : List Text) : WritesTexts texts [.array (texts.map .string)]

/-- What is wrong with an object that has to have some of its fields, and each of
them once. -/
inductive Flawed (necessary known : List String) (members : List (Text × Json)) : Prop
  | lacks {name : String} (needed : name ∈ necessary)
      (missing : ∀ member ∈ members, member.1 ≠ name.toList)
  | repeats {name : String} {first second : Json} (possible : name ∈ known)
      (twice : [(name.toList, first), (name.toList, second)].Sublist members)

/-! ## How often a name occurs -/

variable {α : Type} {members : List (Text × Json)} {name : String} {value : Json}

/-- The values that an object has under a name. -/
def valuesOf (members : List (Text × Json)) (name : String) : List Json :=
  (members.filter fun member => member.1 == name.toList).map Prod.snd

theorem valuesOf_append (front back : List (Text × Json)) (name : String) :
    valuesOf (front ++ back) name = valuesOf front name ++ valuesOf back name := by
  rw [valuesOf, List.filter_append, List.map_append]
  rfl

theorem valuesOf_eq_nil (foreign : ∀ member ∈ members, member.1 ≠ name.toList) :
    valuesOf members name = [] := by
  rw [valuesOf, List.map_eq_nil_iff, List.filter_eq_nil_iff]
  exact fun member among same => foreign member among (eq_of_beq same)

theorem valuesOf_members_self (field : Field) : valuesOf field.asMembers field.name = field.values := by
  simp [valuesOf, Field.asMembers, List.filter_map, Function.comp_def]

theorem valuesOf_members_of_ne {field : Field} (other : field.name ≠ name) :
    valuesOf field.asMembers name = [] := by
  apply valuesOf_eq_nil
  intro member among
  obtain ⟨value, -, rfl⟩ := List.mem_map.1 among
  exact fun same => other (String.toList_inj.1 same)

theorem valuesOf_flatMap_members {fields : List Field} (distinct : (fields.map Field.name).Nodup)
    {field : Field} (among : field ∈ fields) :
    valuesOf (fields.flatMap Field.asMembers) field.name = field.values := by
  induction fields with
  | nil => exact absurd among List.not_mem_nil
  | cons head tail inductionHypothesis =>
      rw [List.map_cons, List.nodup_cons] at distinct
      rw [List.flatMap_cons, valuesOf_append]
      rcases List.mem_cons.1 among with rfl | later
      · have others : valuesOf (tail.flatMap Field.asMembers) field.name = [] := by
          apply valuesOf_eq_nil
          intro member inTail
          obtain ⟨other, fromTail, isMember⟩ := List.mem_flatMap.1 inTail
          obtain ⟨value, -, rfl⟩ := List.mem_map.1 isMember
          intro same
          have sameName : other.name = field.name := String.toList_inj.1 same
          exact distinct.1 (sameName ▸ List.mem_map_of_mem fromTail)
        rw [valuesOf_members_self, others, List.append_nil]
      · have other : head.name ≠ field.name :=
          fun same => distinct.1 (same ▸ List.mem_map_of_mem later)
        rw [valuesOf_members_of_ne other, List.nil_append]
        exact inductionHypothesis distinct.2 later

/-- An object of some fields has under the name of each the values that are given
for it, whatever else it has. -/
theorem HasFields.exists_members {fields : List Field} (shape : HasFields fields value)
    (distinct : (fields.map Field.name).Nodup) :
    ∃ members, value = .object members ∧
      ∀ field ∈ fields, (valuesOf members field.name).Perm field.values := by
  obtain @⟨members, further, ordered, foreign⟩ := shape
  refine ⟨members, rfl, fun field among => ?_⟩
  have same := (ordered.filter fun member => member.1 == field.name.toList).map Prod.snd
  have others : valuesOf further field.name = [] :=
    valuesOf_eq_nil fun member isFurther => foreign member isFurther field among
  have shown := valuesOf_append (fields.flatMap Field.asMembers) further field.name
  rw [valuesOf_flatMap_members distinct among, others, List.append_nil] at shown
  exact same.trans (List.Perm.of_eq shown)

theorem occurrence_eq_missing (nothing : valuesOf members name = []) :
    occurrence members name.toList = .missing := by
  rw [valuesOf, List.map_eq_nil_iff] at nothing
  rw [occurrence, nothing]

theorem occurrence_eq_once (single : valuesOf members name = [value]) :
    occurrence members name.toList = .once value := by
  obtain ⟨member, found, rfl⟩ := List.map_eq_singleton_iff.1 single
  rw [occurrence, found]

theorem occurrence_eq_repeated {first second : Json}
    (twice : [(name.toList, first), (name.toList, second)].Sublist members) :
    occurrence members name.toList = .repeated := by
  have kept := (twice.filter fun member => member.1 == name.toList).length_le
  simp only [List.filter_cons, beq_self_eq_true, if_true, List.filter_nil] at kept
  unfold occurrence
  split
  case h_1 nothing => simp [nothing] at kept
  case h_2 single => simp [single] at kept
  case h_3 => rfl

theorem occurrence_of_mem (member : (name.toList, value) ∈ members) :
    occurrence members name.toList = .once value ∨
      occurrence members name.toList = .repeated := by
  have kept : (name.toList, value) ∈ members.filter fun member => member.1 == name.toList :=
    List.mem_filter.2 ⟨member, beq_self_eq_true _⟩
  unfold occurrence
  split
  case h_1 nothing => simp [nothing] at kept
  case h_2 single =>
    rw [single, List.mem_singleton] at kept
    exact .inl (congrArg (Occurrence.once ·.2) kept.symm)
  case h_3 => exact .inr rfl

/-! ## Fields that are read -/

section Fields

variable {read : Json → Option α} {missing : α}

theorem required?_of_perm (given : (valuesOf members name).Perm [value]) :
    required? read members name = read value := by
  rw [required?, occurrence_eq_once (List.perm_singleton.1 given)]

theorem optional?_of_perm_singleton (given : (valuesOf members name).Perm [value]) :
    optional? missing read members name = read value := by
  rw [optional?, occurrence_eq_once (List.perm_singleton.1 given)]

theorem optional?_of_perm_nil (given : (valuesOf members name).Perm []) :
    optional? missing read members name = some missing := by
  rw [optional?, occurrence_eq_missing (List.perm_nil.1 given)]

theorem required?_eq_none_of_lacks (absent : ∀ member ∈ members, member.1 ≠ name.toList) :
    required? read members name = none := by
  rw [required?, occurrence_eq_missing (valuesOf_eq_nil absent)]

theorem required?_eq_none_of_repeats {first second : Json}
    (twice : [(name.toList, first), (name.toList, second)].Sublist members) :
    required? read members name = none := by
  rw [required?, occurrence_eq_repeated twice]

theorem optional?_eq_none_of_repeats {first second : Json}
    (twice : [(name.toList, first), (name.toList, second)].Sublist members) :
    optional? missing read members name = none := by
  rw [optional?, occurrence_eq_repeated twice]

theorem required?_eq_none_of_mem (member : (name.toList, value) ∈ members)
    (nothing : read value = none) : required? read members name = none := by
  rcases occurrence_of_mem member with once | repeated
  · rw [required?, once]
    exact nothing
  · rw [required?, repeated]

theorem optional?_eq_none_of_mem (member : (name.toList, value) ∈ members)
    (nothing : read value = none) : optional? missing read members name = none := by
  rcases occurrence_of_mem member with once | repeated
  · rw [optional?, once]
    exact nothing
  · rw [optional?, repeated]

end Fields

theorem optional?_of_writesOptional {writes : α → Json → Prop} {read : Json → Option (Option α)}
    {content : Option α} {values : List Json} (written : WritesOptional writes content values)
    (reads : ∀ content value, writes content value → read value = some (some content))
    (readsNull : read .null = some none) (given : (valuesOf members name).Perm values) :
    optional? none read members name = some content := by
  cases written with
  | absent => exact optional?_of_perm_nil given
  | null => rw [optional?_of_perm_singleton given, readsNull]
  | present written => rw [optional?_of_perm_singleton given, reads _ _ written]

theorem optional?_of_writesTexts {texts : List Text} {values : List Json}
    (written : WritesTexts texts values) (given : (valuesOf members name).Perm values) :
    optional? [] readTexts? members name = some texts := by
  cases written with
  | absent => exact optional?_of_perm_nil given
  | array =>
      rw [optional?_of_perm_singleton given, readTexts?]
      exact Traversal.mapM_map_eq_some (fun text => show readText? (.string text) = _ from rfl) texts

end BacklogTrace.Config
