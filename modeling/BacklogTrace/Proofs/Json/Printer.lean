import Mathlib.Tactic.SplitIfs
import BacklogTrace.Json.Printer
import BacklogTrace.Proofs.Json.Grammar

/-!
Contract: what the printer writes is a document of the value.

Each character of a string is written in one of the ways of the grammar, and the
indented form of an array or object is that of its parts, one level further in, with
layout between them. Numbers are printed as they were read, so nothing but a literal
that is no number can spoil a document.

Owns: `isString_quote`, `IsPrintable`, `isDocument_pretty`.

Does not own: what a document stands for (`Proofs.Json.Reader`).
-/

namespace BacklogTrace.Json

theorem isUnit_escapeNumber {character : Char} (short : character.toNat < 0x100) :
    IsUnit ['0', '0', hexDigit (character.toNat / 16), hexDigit (character.toNat % 16)]
      character.toNat := by
  have zero : hexValue? '0' = some 0 := by decide
  have high := hexValue?_hexDigit (character.toNat / 16) (by omega)
  have low := hexValue?_hexDigit (character.toNat % 16) (by omega)
  have number : ((0 * 16 + 0) * 16 + character.toNat / 16) * 16 + character.toNat % 16 =
      character.toNat := by omega
  have unit := IsUnit.digits zero zero high low
  rwa [number] at unit

theorem isCharacter_escape (character : Char) : IsCharacter character (escape character) := by
  unfold escape
  split_ifs with quote backslash lineFeed return_ tab backspace formFeed control
  · exact .short (by simp [quote, shortEscapes])
  · exact .short (by simp [backslash, shortEscapes])
  · exact .short (by simp [lineFeed, shortEscapes])
  · exact .short (by simp [return_, shortEscapes])
  · exact .short (by simp [tab, shortEscapes])
  · exact .short (by simp [backspace, shortEscapes])
  · exact .short (by simp [formFeed, shortEscapes])
  · exact .unit (isUnit_escapeNumber (by omega))
  · exact .plain quote backslash (by omega)

theorem isContent_flatMap_escape (content : Text) : IsContent content (content.flatMap escape) := by
  induction content with
  | nil => exact .nil
  | cons head tail inductionHypothesis =>
      rw [List.flatMap_cons]
      exact .cons (isCharacter_escape head) inductionHypothesis

theorem isString_quote (content : Text) : IsString content (quote content) :=
  .quoted (isContent_flatMap_escape content)

theorem isSpacing_newLine (depth : Nat) : IsSpacing (newLine depth) := by
  intro character member
  rcases List.mem_cons.1 member with rfl | blank
  · decide
  · rw [List.eq_of_mem_replicate blank]
    decide

theorem isSpacing_nil : IsSpacing [] :=
  fun _ member => absurd member List.not_mem_nil

theorem prettyElements_eq_map (depth : Nat) (elements : List Json) :
    prettyElements depth elements = elements.map (prettyAt depth) := by
  induction elements with
  | nil => rfl
  | cons head tail inductionHypothesis => rw [prettyElements, inductionHypothesis, List.map_cons]

def prettyMember (depth : Nat) (member : Text × Json) : Text :=
  quote member.1 ++ ':' :: ' ' :: prettyAt depth member.2

theorem prettyMembers_eq_map (depth : Nat) (members : List (Text × Json)) :
    prettyMembers depth members = members.map (prettyMember depth) := by
  induction members with
  | nil => rfl
  | cons head tail inductionHypothesis =>
      rw [prettyMembers, inductionHypothesis, List.map_cons, prettyMember]

theorem isWritten_elements {depth : Nat} {elements : List Json} {after : Text}
    (nonempty : elements ≠ []) (spaceAfter : IsSpacing after)
    (written : ∀ element ∈ elements, IsWritten (.value element) (prettyAt depth element)) :
    IsWritten (.elements elements)
      ([','].intercalate ((elements.map (prettyAt depth)).map (newLine depth ++ ·)) ++ after) := by
  induction elements with
  | nil => exact absurd rfl nonempty
  | cons head tail inductionHypothesis =>
      rw [List.forall_mem_cons] at written
      cases tail with
      | nil =>
          rw [List.map_singleton, List.map_singleton, List.intercalate_singleton]
          exact .lastElement (.padded (isSpacing_newLine depth) written.1 spaceAfter)
      | cons next others =>
          have rest := inductionHypothesis (List.cons_ne_nil _ _) written.2
          have first := IsWritten.padded (isSpacing_newLine depth) written.1 isSpacing_nil
          rw [List.append_nil] at first
          rw [List.map_cons, List.map_cons, List.map_cons, List.map_cons,
            List.intercalate_cons_cons, List.append_assoc, List.append_assoc]
          exact .nextElement first rest

theorem isWritten_member {depth : Nat} (key : Text) {value : Json} {after : Text}
    (spaceAfter : IsSpacing after) (written : IsWritten (.value value) (prettyAt depth value)) :
    IsWritten (.member key value) (newLine depth ++ prettyMember depth (key, value) ++ after) := by
  have space : IsSpacing [' '] := by simp [IsSpacing, isSpace]
  have spelled := IsWritten.member (isSpacing_newLine depth) (isString_quote key) isSpacing_nil
    (.padded space written spaceAfter)
  simpa [prettyMember] using spelled

theorem isWritten_members {depth : Nat} {members : List (Text × Json)} {after : Text}
    (nonempty : members ≠ []) (spaceAfter : IsSpacing after)
    (written : ∀ member ∈ members, IsWritten (.value member.2) (prettyAt depth member.2)) :
    IsWritten (.members members)
      ([','].intercalate ((members.map (prettyMember depth)).map (newLine depth ++ ·)) ++ after) := by
  induction members with
  | nil => exact absurd rfl nonempty
  | cons head tail inductionHypothesis =>
      rw [List.forall_mem_cons] at written
      cases tail with
      | nil =>
          rw [List.map_singleton, List.map_singleton, List.intercalate_singleton]
          exact .lastMember (isWritten_member head.1 spaceAfter written.1)
      | cons next others =>
          have rest := inductionHypothesis (List.cons_ne_nil _ _) written.2
          have first := isWritten_member head.1 isSpacing_nil written.1
          rw [List.append_nil] at first
          rw [List.map_cons, List.map_cons, List.map_cons, List.map_cons,
            List.intercalate_cons_cons, List.append_assoc, List.append_assoc]
          exact .nextMember first rest

theorem isWritten_array {depth : Nat} {elements : List Json}
    (written : ∀ element ∈ elements,
      IsWritten (.value element) (prettyAt (depth + 1) element)) :
    IsWritten (.value (.array elements)) (prettyAt depth (.array elements)) := by
  rw [prettyAt, prettyElements_eq_map]
  cases elements with
  | nil => exact .emptyArray isSpacing_nil
  | cons head tail =>
      have inner := isWritten_elements (List.cons_ne_nil head tail) (isSpacing_newLine depth) written
      have whole := IsWritten.array inner
      rwa [List.append_assoc] at whole

theorem isWritten_object {depth : Nat} {members : List (Text × Json)}
    (written : ∀ member ∈ members,
      IsWritten (.value member.2) (prettyAt (depth + 1) member.2)) :
    IsWritten (.value (.object members)) (prettyAt depth (.object members)) := by
  rw [prettyAt, prettyMembers_eq_map]
  cases members with
  | nil => exact .emptyObject isSpacing_nil
  | cons head tail =>
      have inner := isWritten_members (List.cons_ne_nil head tail) (isSpacing_newLine depth) written
      have whole := IsWritten.object inner
      rwa [List.append_assoc] at whole

/-! ## Printed values -/

/-- The literals of a value are numbers, as they are in every value that is read. -/
inductive IsPrintable : Json → Prop
  | null : IsPrintable .null
  | boolean (value : Bool) : IsPrintable (.boolean value)
  | number {literal : Text} (proper : IsNumber literal) : IsPrintable (.number literal)
  | string (content : Text) : IsPrintable (.string content)
  | array {elements : List Json} (inner : ∀ element ∈ elements, IsPrintable element) :
      IsPrintable (.array elements)
  | object {members : List (Text × Json)} (inner : ∀ member ∈ members, IsPrintable member.2) :
      IsPrintable (.object members)

theorem isWritten_prettyAt {value : Json} (printable : IsPrintable value) (depth : Nat) :
    IsWritten (.value value) (prettyAt depth value) := by
  induction printable generalizing depth with
  | null => exact .null
  | boolean value =>
      cases value with
      | true => exact .true
      | false => exact .false
  | number proper => exact .number proper
  | string content => exact .string (isString_quote content)
  | array _ inductionHypothesis =>
      exact isWritten_array fun element among => inductionHypothesis element among (depth + 1)
  | object _ inductionHypothesis =>
      exact isWritten_object fun member among => inductionHypothesis member among (depth + 1)

/-- The printer writes a document of the value. -/
theorem isDocument_pretty {value : Json} (printable : IsPrintable value) :
    IsDocument value.pretty value := by
  have document := IsWritten.padded isSpacing_nil (isWritten_prettyAt printable 0) isSpacing_nil
  rwa [List.nil_append, List.append_nil] at document

end BacklogTrace.Json
