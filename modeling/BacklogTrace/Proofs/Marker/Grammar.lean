import BacklogTrace.Proofs.Backlog.Pattern
import BacklogTrace.Proofs.Marker

/-!
Contract: the items of a line, by the grammar of its markers.

A line is cut at its leftmost opening and at the closing parenthesis that follows
it; what stands between is a list of entries between commas. The main statement
says that reading a line gives the items of this first marker, in the order of
their entries, and then those of what follows the marker. An entry is layout, a
tag, layout, a colon, layout, a ticket name and layout, where the name matches
the pattern of the tag's system; all other entries are skipped.

The reader goes through a line once and character by character. It is shown first
that it does not stop before the leftmost opening (`extractFrom_of_opensAt`).

Owns: `IsEntry`, `Lists`, `OpensAt`, `IsFirstMarker`, `IsUnmarked`, and the items of a
line by these.

Does not own: markers that are hidden by others (`Proofs.Marker.LookAlike`).
-/

namespace BacklogTrace

/-! ## Tags -/

theorem Source.ofTag?_eq_some_iff {tag : Text} {source : Source} :
    Source.ofTag? tag = some source ↔ Text.eqIgnoringAsciiCase tag source.tag = true := by
  unfold Source.ofTag?
  constructor
  · intro known
    split at known
    · rename_i named
      rwa [← Option.some.inj known]
    · split at known
      · rename_i named
        rwa [← Option.some.inj known]
      · exact absurd known (by simp)
  · intro named
    cases source with
    | jira => rw [if_pos named]
    | gitHub =>
        have other : ¬ Text.eqIgnoringAsciiCase tag Source.jira.tag = true := by
          intro both
          rw [Text.eqIgnoringAsciiCase, beq_iff_eq] at named both
          rw [both] at named
          exact absurd named (by decide)
        rw [if_neg other, if_pos named]

/-- What no tag holds, in any case, is not in the spelling of one. -/
theorem Source.not_mem_of_named {source : Source} {tag : Text} {foreign : Char}
    (named : Text.eqIgnoringAsciiCase tag source.tag = true)
    (absent : foreign.toLower ∉ source.tag.map Char.toLower) : foreign ∉ tag := by
  rw [Text.eqIgnoringAsciiCase, beq_iff_eq] at named
  intro member
  exact absent (named ▸ List.mem_map_of_mem member)

theorem Source.isSolid_of_named {source : Source} {tag : Text}
    (named : Text.eqIgnoringAsciiCase tag source.tag = true) : Text.IsSolid tag := by
  have foreign : ∀ source : Source, Text.blankCharacters.all
      (fun blank => !(source.tag.map Char.toLower).contains blank.toLower) = true := by
    intro source
    cases source <;> decide
  intro character member
  rw [Bool.eq_false_iff]
  intro blank
  have absent := List.all_eq_true.1 (foreign source) character (Text.isBlank_eq_true_iff.1 blank)
  rw [Bool.not_eq_true', ← Bool.not_eq_true, List.contains_iff_mem] at absent
  exact Source.not_mem_of_named named absent member

namespace Marker

/-! ## Entries -/

/-- An entry and its item: a tag in any case and a ticket name, with a colon between
them and layout around each. -/
inductive IsEntry : Text → Item → Prop where
  | written {front tag beforeColon afterColon id back : Text} {source : Source}
      (layout : ∀ text ∈ [front, beforeColon, afterColon, back], Text.isAllBlank text = true)
      (named : Text.eqIgnoringAsciiCase tag source.tag = true)
      (matching : id ∈ source.pattern.matches') :
      IsEntry (front ++ tag ++ beforeColon ++ ':' :: (afterColon ++ id ++ back)) ⟨id, source⟩

theorem readEntry_of_isEntry {entry : Text} {item : Item} (written : IsEntry entry item) :
    readEntry entry = some item := by
  obtain @⟨front, tag, beforeColon, afterColon, id, back, source, layout, named, matching⟩ := written
  have admitted := Source.admits_iff_matches.2 matching
  have noColon : ':' ∉ front ++ tag ++ beforeColon := by
    have absent : ':'.toLower ∉ source.tag.map Char.toLower := by cases source <;> decide
    rw [List.mem_append, List.mem_append, not_or, not_or]
    exact ⟨⟨Text.not_mem_of_isAllBlank (layout front (by simp)) (by decide),
      Source.not_mem_of_named named absent⟩,
      Text.not_mem_of_isAllBlank (layout beforeColon (by simp)) (by decide)⟩
  have tagLeft : Text.trim (front ++ tag ++ beforeColon) = tag :=
    Text.trim_of_isSolid_between (layout front (by simp)) (Source.isSolid_of_named named)
      (layout beforeColon (by simp))
  have idLeft : Text.trim (afterColon ++ id ++ back) = id :=
    Text.trim_of_isSolid_between (layout afterColon (by simp))
      (Item.isSolid_id (show Item.isWellFormed ⟨id, source⟩ = true from admitted))
      (layout back (by simp))
  rw [readEntry, Sequence.cutFirst?_append_cons noColon]
  simp only [tagLeft, idLeft, Source.ofTag?_eq_some_iff.2 named, admitted, if_true]

theorem isEntry_of_readEntry {entry : Text} {item : Item} (read : readEntry entry = some item) :
    IsEntry entry item := by
  unfold readEntry at read
  split at read
  · exact absurd read (by simp)
  · rename_i tagPart colon idPart cut
    obtain ⟨rfl, hit, -⟩ := (Sequence.cutFirst?_eq_some_iff _).1 cut
    rw [beq_iff_eq] at hit
    subst hit
    split at read
    · exact absurd read (by simp)
    · rename_i source known
      split at read
      · rename_i admitted
        obtain ⟨front, beforeColon, tagShape, frontBlank, beforeBlank⟩ :=
          Text.exists_append_of_trim tagPart
        obtain ⟨afterColon, back, idShape, afterBlank, backBlank⟩ :=
          Text.exists_append_of_trim idPart
        generalize Text.trim tagPart = tag at known tagShape
        generalize Text.trim idPart = id at read admitted idShape
        obtain rfl := Option.some.inj read
        rw [tagShape, idShape]
        refine .written ?_ (Source.ofTag?_eq_some_iff.1 known)
          (Source.admits_iff_matches.1 admitted)
        simp [frontBlank, beforeBlank, afterBlank, backBlank]
      · exact absurd read (by simp)

theorem readEntry_eq_some_iff {entry : Text} {item : Item} :
    readEntry entry = some item ↔ IsEntry entry item :=
  ⟨isEntry_of_readEntry, readEntry_of_isEntry⟩

/-- The items of those of the pieces that are entries, in order. -/
inductive Lists : List Text → List Item → Prop where
  | nil : Lists [] []
  | entry {piece : Text} {item : Item} {pieces : List Text} {items : List Item}
      (written : IsEntry piece item) (rest : Lists pieces items) :
      Lists (piece :: pieces) (item :: items)
  | skipped {piece : Text} {pieces : List Text} {items : List Item}
      (malformed : ∀ item, ¬ IsEntry piece item) (rest : Lists pieces items) :
      Lists (piece :: pieces) items

theorem lists_filterMap_readEntry (pieces : List Text) :
    Lists pieces (pieces.filterMap readEntry) := by
  induction pieces with
  | nil => exact .nil
  | cons piece pieces inductionHypothesis =>
      cases read : readEntry piece with
      | some item =>
          rw [List.filterMap_cons_some read]
          exact .entry (readEntry_eq_some_iff.1 read) inductionHypothesis
      | none =>
          rw [List.filterMap_cons_none read]
          refine .skipped (fun item written => ?_) inductionHypothesis
          rw [readEntry_of_isEntry written] at read
          exact absurd read (by simp)

theorem mem_readEntries_iff {entries : Text} {item : Item} :
    item ∈ readEntries entries ↔ ∃ piece ∈ Sequence.splitOn ',' entries, IsEntry piece item := by
  simp only [readEntries, List.mem_filterMap, readEntry_eq_some_iff]

/-! ## The leftmost opening -/

/-- The leftmost opening of a line stands between two parts of it. -/
structure OpensAt (line before rest : Text) : Prop where
  shape : line = before ++ (opening ++ rest)
  leftmost : ∀ other after, line = other ++ (opening ++ after) → before.length ≤ other.length

namespace OpensAt

variable {line before rest : Text}

theorem unique {otherBefore otherRest : Text} (opens : OpensAt line before rest)
    (other : OpensAt line otherBefore otherRest) : otherBefore = before ∧ otherRest = rest := by
  have same : otherBefore.length = before.length :=
    Nat.le_antisymm (other.leftmost _ _ opens.shape) (opens.leftmost _ _ other.shape)
  obtain ⟨front, ending⟩ := List.append_inj (other.shape.symm.trans opens.shape) same
  exact ⟨front, List.append_cancel_left ending⟩

theorem tail {head : Char} {before : Text} (opens : OpensAt line (head :: before) rest) :
    OpensAt (before ++ (opening ++ rest)) before rest where
  shape := rfl
  leftmost other after shape := by
    have longer := opens.leftmost (head :: other) after (by rw [opens.shape, List.cons_append, shape]; rfl)
    rw [List.length_cons, List.length_cons] at longer
    exact Nat.le_of_succ_le_succ longer

theorem not_prefix {head : Char} {before : Text} (opens : OpensAt line (head :: before) rest) :
    ¬ opening <+: line := by
  rintro ⟨after, shape⟩
  have shorter := opens.leftmost [] after shape.symm
  exact absurd shorter (by simp)

/-- An opening is the leftmost one also of a longer line. -/
theorem append (opens : OpensAt line before rest) (more : Text) :
    OpensAt (line ++ more) before (rest ++ more) where
  shape := by rw [opens.shape, List.append_assoc, List.append_assoc]
  leftmost other after shape := by
    by_contra shorter
    rw [Nat.not_le] at shorter
    -- an earlier opening would end before the end of the shorter line
    have begins : other ++ opening <+: line ++ more := ⟨after, by rw [shape, List.append_assoc]⟩
    have fits : (other ++ opening).length ≤ line.length := by
      rw [opens.shape, List.length_append, List.length_append, List.length_append]
      omega
    obtain ⟨after, here⟩ :=
      List.prefix_of_prefix_length_le begins (List.prefix_append line more) fits
    have longer := opens.leftmost other after (by rw [← here, List.append_assoc])
    omega

end OpensAt

theorem exists_opensAt {line : Text} (occurs : opening <:+: line) :
    ∃ before rest, OpensAt line before rest := by
  induction line with
  | nil => exact absurd (List.eq_nil_of_infix_nil occurs) (by decide)
  | cons head tail inductionHypothesis =>
      by_cases here : opening <+: head :: tail
      · obtain ⟨rest, shape⟩ := here
        exact ⟨[], rest, ⟨shape.symm, fun _ _ _ => Nat.zero_le _⟩⟩
      · obtain ⟨before, rest, opens⟩ :=
          inductionHypothesis ((List.infix_cons_iff.1 occurs).resolve_left here)
        refine ⟨head :: before, rest, by rw [opens.shape]; rfl, fun other after shape => ?_⟩
        cases other with
        | nil => exact absurd ⟨after, shape.symm⟩ here
        | cons first others =>
            exact Nat.succ_le_succ (opens.leftmost others after (List.cons.inj shape).2)

/-- No opening begins in a text without one and ends behind it: only its first
character is the first one of an opening. -/
theorem opensAt_append {front : Text} (unopened : ¬ opening <:+: front) (rest : Text) :
    OpensAt (front ++ (opening ++ rest)) front rest where
  shape := rfl
  leftmost other after shape := by
    by_contra shorter
    rw [Nat.not_le] at shorter
    rcases List.append_eq_append_iff.1 shape with ⟨middle, rfl, -⟩ | ⟨middle, rfl, ending⟩
    · rw [List.length_append] at shorter
      omega
    · rcases List.append_eq_append_iff.1 ending with ⟨others, rfl, -⟩ | ⟨others, begun, ended⟩
      · exact unopened ⟨other, others, List.append_assoc _ _ _⟩
      · match middle, begun with
        | [], _ => simp at shorter
        | first :: middle, begun =>
            have isLater : opening.tail = middle ++ others := by rw [begun]; rfl
            cases others with
            | nil =>
                rw [List.append_nil] at begun
                exact unopened ⟨other, [], by rw [begun, List.append_nil]⟩
            | cons next others =>
                obtain rfl : 'T' = next := (List.cons.inj ended).1
                exact absurd (isLater ▸ List.mem_append_right middle List.mem_cons_self)
                  (show 'T' ∉ opening.tail by decide)

/-! ## Reading up to the first marker -/

/-- Whether what follows a text is glued to a word at its end. -/
def EndsInWord (text : Text) : Prop :=
  ∃ last, text.getLast? = some last ∧ Text.isWordCharacter last = true

instance (text : Text) : Decidable (EndsInWord text) :=
  decidable_of_iff ((text.getLast?.map Text.isWordCharacter).getD false = true) (by
    unfold EndsInWord
    cases text.getLast? <;> simp)

theorem extractFrom_of_opensAt {line before rest : Text} (opens : OpensAt line before rest)
    (glued : Bool) :
    extractFrom (.searching glued) line =
      itemsOf ((before.getLast?.map Text.isWordCharacter).getD glued) rest ++
        extractFrom .inside rest := by
  induction before generalizing line glued with
  | nil =>
      rw [opens.shape]
      exact extractFrom_searching_opening glued rest
  | cons head tail inductionHypothesis =>
      have apart := opens.not_prefix
      rw [opens.shape, List.cons_append] at apart ⊢
      rw [extractFrom_searching_cons apart, inductionHypothesis opens.tail, List.getLast?_cons]
      cases tail.getLast? <;> rfl

theorem extract_of_opensAt {line before rest : Text} (opens : OpensAt line before rest) :
    extract line = itemsOf (decide (EndsInWord before)) rest ++ extractFrom .inside rest := by
  rw [extract, extractFrom_of_opensAt opens]
  congr 2
  rw [Bool.eq_iff_iff, decide_eq_true_iff]
  unfold EndsInWord
  cases before.getLast? <;> simp

theorem extractFrom_of_not_isInfix {line : Text} (unopened : ¬ opening <:+: line) (glued : Bool) :
    extractFrom (.searching glued) line = [] := by
  induction line generalizing glued with
  | nil => rfl
  | cons head tail inductionHypothesis =>
      rw [List.infix_cons_iff, not_or] at unopened
      rw [extractFrom_searching_cons unopened.1]
      exact inductionHypothesis unopened.2 _

/-- A line has no marker: nothing opens one, or nothing closes the first. -/
def IsUnmarked (line : Text) : Prop :=
  ¬ opening <:+: line ∨ ∃ before rest, OpensAt line before rest ∧ ')' ∉ rest

theorem extract_of_isUnmarked {line : Text} (unmarked : IsUnmarked line) : extract line = [] := by
  rcases unmarked with unopened | ⟨before, rest, opens, unclosed⟩
  · exact extractFrom_of_not_isInfix unopened false
  · rw [extract_of_opensAt opens, itemsOf_of_not_mem _ unclosed,
      extractFrom_inside_of_not_mem unclosed]
    rfl

/-- The first marker of a line, with its entries between what stands before and after it. -/
structure IsFirstMarker (line before entries after : Text) : Prop where
  opens : OpensAt line before (entries ++ ')' :: after)
  unclosed : ')' ∉ entries

namespace IsFirstMarker

variable {line before entries after : Text}

theorem unique {otherBefore otherEntries otherAfter : Text}
    (first : IsFirstMarker line before entries after)
    (other : IsFirstMarker line otherBefore otherEntries otherAfter) :
    otherBefore = before ∧ otherEntries = entries ∧ otherAfter = after := by
  obtain ⟨front, ending⟩ := first.opens.unique other.opens
  have cut := Sequence.cutFirst?_append_cons other.unclosed otherAfter
  rw [ending, Sequence.cutFirst?_append_cons first.unclosed] at cut
  obtain ⟨entriesEq, others⟩ := Prod.mk.inj (Option.some.inj cut)
  exact ⟨front, entriesEq.symm, (Prod.mk.inj others).2.symm⟩

theorem append (first : IsFirstMarker line before entries after) (more : Text) :
    IsFirstMarker (line ++ more) before entries (after ++ more) where
  opens := by
    have opens := first.opens.append more
    rwa [List.append_assoc, List.cons_append] at opens
  unclosed := first.unclosed

theorem length_lt (first : IsFirstMarker line before entries after) :
    after.length < line.length := by
  rw [first.opens.shape]
  simp only [List.length_append, List.length_cons]
  omega

theorem extract_eq (first : IsFirstMarker line before entries after) :
    extract line = (if EndsInWord before then [] else readEntries entries) ++ extract after := by
  rw [extract_of_opensAt first.opens, itemsOf_append _ first.unclosed,
    extractFrom_inside_append first.unclosed]
  simp only [decide_eq_true_eq]

end IsFirstMarker

theorem exists_isFirstMarker {line : Text} (marked : ¬ IsUnmarked line) :
    ∃ before entries after, IsFirstMarker line before entries after := by
  rw [IsUnmarked, not_or, not_not] at marked
  obtain ⟨before, rest, opens⟩ := exists_opensAt marked.1
  have closed : ')' ∈ rest := by
    by_contra unclosed
    exact marked.2 ⟨before, rest, opens, unclosed⟩
  obtain ⟨entries, after, rfl, unclosed⟩ := List.eq_append_cons_of_mem closed
  exact ⟨before, entries, after, opens, unclosed⟩

/-- The items of a line are those of its first marker, then those of what follows it.
What follows is shorter than the line, so that a line has finitely many markers. -/
theorem extract_accepts_grammar (line : Text) :
    (IsUnmarked line ∧ extract line = []) ∨
      (¬ IsUnmarked line ∧ ∃ before entries after items,
        IsFirstMarker line before entries after ∧
        (∀ otherBefore otherEntries otherAfter,
          IsFirstMarker line otherBefore otherEntries otherAfter →
            otherBefore = before ∧ otherEntries = entries ∧ otherAfter = after) ∧
        (EndsInWord before ∧ items = [] ∨
          ¬ EndsInWord before ∧
            ∃ pieces, Sequence.IsSplit ',' entries pieces ∧ Lists pieces items) ∧
        extract line = items ++ extract after ∧ after.length < line.length) := by
  by_cases unmarked : IsUnmarked line
  · exact Or.inl ⟨unmarked, extract_of_isUnmarked unmarked⟩
  · obtain ⟨before, entries, after, first⟩ := exists_isFirstMarker unmarked
    refine Or.inr ⟨unmarked, before, entries, after, _, first, fun _ _ _ => first.unique, ?_,
      first.extract_eq, first.length_lt⟩
    by_cases glued : EndsInWord before
    · exact Or.inl ⟨glued, if_pos glued⟩
    · refine Or.inr ⟨glued, _, Sequence.isSplit_iff.2 rfl, ?_⟩
      rw [if_neg glued]
      exact lists_filterMap_readEntry _

end Marker

end BacklogTrace
