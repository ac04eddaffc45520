import BacklogTrace.Marker
import BacklogTrace.Proofs.Backlog.Item

/-!
Contract: a marker that lists written items is read back as these items.

Entries end at commas, tags at the first colon, and the marker at its closing
parenthesis; none of them can stand in a written item, so the three cuts fall
where the writer put them.

Layout around a line is no part of its markers.

Owns: `Marker.readEntries_shownList`, the items of a written marker, the form of
the items of any line, the items of a line in layout.

Does not own: other spellings of the same items.
-/

namespace BacklogTrace

theorem Source.ofTag?_tag (source : Source) : Source.ofTag? source.tag = some source := by
  cases source <;> decide

namespace Item

@[simp] theorem shownList_nil : shownList [] = [] := rfl

@[simp] theorem shownList_singleton (item : Item) : shownList [item] = item.shown := by
  simp [shownList]

theorem shownList_cons_cons (first second : Item) (rest : List Item) :
    shownList (first :: second :: rest) =
      first.shown ++ ',' :: ' ' :: shownList (second :: rest) := by
  simp [shownList, List.intercalate_cons_cons]

theorem not_mem_shownList {items : List Item}
    (wellFormed : ∀ item ∈ items, item.isWellFormed = true) {delimiter : Char}
    (foreign : isIdCharacter delimiter = false)
    (other : delimiter ∉ [':', ',', ' ']) : delimiter ∉ shownList items := by
  simp only [List.mem_cons, List.not_mem_nil, or_false, not_or] at other
  induction items with
  | nil => simp
  | cons first rest inductionHypothesis =>
      have notFirst := not_mem_shown (wellFormed first (by simp)) foreign other.1
      cases rest with
      | nil => rwa [shownList_singleton]
      | cons second rest =>
          have notRest := inductionHypothesis fun item member => wellFormed item (by simp [member])
          rw [shownList_cons_cons]
          simp [notFirst, other.2.1, other.2.2, notRest]

end Item

namespace Marker

theorem readEntry_shown {item : Item} (wellFormed : item.isWellFormed = true) {layout : Text}
    (blank : Text.isAllBlank layout = true) : readEntry (layout ++ item.shown) = some item := by
  have noColon : ∀ character ∈ layout ++ item.source.tag, (character == ':') = false := by
    have tags : ∀ source : Source, (source.tag.any (· == ':')) = false := by
      intro source
      cases source <;> decide
    intro character member
    rcases List.mem_append.1 member with inLayout | inTag
    · rw [beq_eq_false_iff_ne]
      rintro rfl
      exact absurd (List.all_eq_true.1 blank _ inLayout) (by decide)
    · exact Sequence.forall_of_any_eq_false (tags item.source) character inTag
  have cut : Sequence.cutFirst? (· == ':') (layout ++ item.shown) =
      some (layout ++ item.source.tag, ':', item.id) :=
    (Sequence.cutFirst?_eq_some_iff _).2 ⟨by simp [Item.shown], by decide, noColon⟩
  have admitted : item.source.admits item.id = true := wellFormed
  rw [readEntry, cut]
  simp only [Text.trim_append_of_isSolid blank (Item.isSolid_tag item.source),
    Text.trim_of_isSolid (Item.isSolid_id wellFormed), Source.ofTag?_tag, admitted, if_true]

/-- Written items are read back, whatever layout stands before the first. -/
theorem readEntries_layout_append {items : List Item} (nonempty : items ≠ [])
    (wellFormed : ∀ item ∈ items, item.isWellFormed = true) {layout : Text}
    (blank : Text.isAllBlank layout = true) :
    readEntries (layout ++ Item.shownList items) = items := by
  induction items generalizing layout with
  | nil => exact absurd rfl nonempty
  | cons first rest inductionHypothesis =>
      have firstFormed := wellFormed first (by simp)
      have noComma : ∀ character ∈ layout ++ first.shown, (character == ',') = false := by
        intro character member
        rw [beq_eq_false_iff_ne]
        rintro rfl
        rcases List.mem_append.1 member with inLayout | inFirst
        · exact absurd (List.all_eq_true.1 blank _ inLayout) (by decide)
        · exact Item.not_mem_shown firstFormed (by decide) (by decide) inFirst
      cases rest with
      | nil =>
          rw [Item.shownList_singleton, readEntries, Sequence.splitOn,
            Sequence.splitWhere_of_forall _ noComma]
          simp [readEntry_shown firstFormed blank]
      | cons second rest =>
          have others := inductionHypothesis (by simp)
            (fun item member => wellFormed item (by simp [member]))
            (show Text.isAllBlank [' '] = true from rfl)
          rw [Item.shownList_cons_cons, ← List.append_assoc, readEntries, Sequence.splitOn,
            Sequence.splitWhere_append_cons _ noComma (by decide),
            List.filterMap_cons_some (readEntry_shown firstFormed blank)]
          exact congrArg _ others

theorem readEntries_shownList {items : List Item}
    (wellFormed : ∀ item ∈ items, item.isWellFormed = true) :
    readEntries (Item.shownList items) = items := by
  cases items with
  | nil => rfl
  | cons first rest =>
      exact readEntries_layout_append (by simp) wellFormed
        (show Text.isAllBlank [] = true from rfl)

/-! ## Whole lines -/

/-- Where no marker opens, the search goes on behind the next character. -/
theorem extractFrom_searching_cons {character : Char} {rest : Text}
    (apart : ¬ opening <+: character :: rest) (glued : Bool) :
    extractFrom (.searching glued) (character :: rest) =
      extractFrom (.searching (Text.isWordCharacter character)) rest := by
  rw [extractFrom]
  intro after first others
  rw [first, others] at apart
  exact apart ⟨after, rfl⟩

/-- A line without an opening parenthesis has no marker. -/
theorem extractFrom_searching_of_not_mem {rest : Text} (unopened : '(' ∉ rest) (glued : Bool) :
    extractFrom (.searching glued) rest = [] := by
  induction rest generalizing glued with
  | nil => rfl
  | cons head tail inductionHypothesis =>
      rw [extractFrom_searching_cons]
      · rw [List.mem_cons, not_or] at unopened
        exact inductionHypothesis unopened.2 _
      · intro opens
        exact unopened (opens.mem (by decide))

theorem extract_of_not_mem {line : Text} (unopened : '(' ∉ line) : extract line = [] :=
  extractFrom_searching_of_not_mem unopened false

theorem extract_comment {items : List Item}
    (wellFormed : ∀ item ∈ items, item.isWellFormed = true) :
    extract ("* ".toList ++ opening ++ Item.shownList items ++ [')']) = items := by
  have unclosed : ')' ∉ Item.shownList items :=
    Item.not_mem_shownList wellFormed (by decide) (by decide)
  change extractFrom (.searching (Text.isWordCharacter ' '))
    (opening ++ (Item.shownList items ++ [')'])) = items
  rw [extractFrom_searching_opening, itemsOf_append _ unclosed, extractFrom_inside_append unclosed,
    readEntries_shownList wellFormed, if_neg (by decide)]
  exact List.append_nil items

/-! ## The form of items -/

theorem isWellFormed_of_readEntry {entry : Text} {item : Item}
    (read : readEntry entry = some item) : item.isWellFormed = true := by
  unfold readEntry at read
  split at read
  · exact absurd read (by simp)
  · split at read
    · exact absurd read (by simp)
    · split at read
      · rename_i admitted
        rw [← Option.some.inj read]
        exact admitted
      · exact absurd read (by simp)

theorem isWellFormed_of_mem_itemsOf {glued : Bool} {rest : Text} {item : Item}
    (member : item ∈ itemsOf glued rest) : item.isWellFormed = true := by
  unfold itemsOf at member
  split at member
  · exact absurd member List.not_mem_nil
  · split at member
    · exact absurd member List.not_mem_nil
    · obtain ⟨entry, -, read⟩ := List.mem_filterMap.1 member
      exact isWellFormed_of_readEntry read

/-- Whatever a line is, its items have the form of their systems. -/
theorem isWellFormed_of_mem_extractFrom {progress : Progress} {line : Text} {item : Item}
    (member : item ∈ extractFrom progress line) : item.isWellFormed = true := by
  induction progress, line using extractFrom.induct with
  | case1 progress =>
      rw [extractFrom_nil] at member
      exact absurd member List.not_mem_nil
  | case2 glued rest inductionHypothesis =>
      change item ∈ itemsOf glued rest ++ extractFrom .inside rest at member
      rcases List.mem_append.1 member with here | later
      · exact isWellFormed_of_mem_itemsOf here
      · exact inductionHypothesis later
  | case3 glued character rest apart inductionHypothesis =>
      rw [extractFrom] at member
      · exact inductionHypothesis member
      · exact apart
  | case4 rest inductionHypothesis =>
      rw [extractFrom, if_pos rfl] at member
      exact inductionHypothesis member
  | case5 character rest other inductionHypothesis =>
      rw [extractFrom, if_neg other] at member
      exact inductionHypothesis member

/-! ## Lines in layout -/

theorem itemsOf_append_of_not_mem (glued : Bool) (rest : Text) {ending : Text}
    (unclosed : ')' ∉ ending) : itemsOf glued (rest ++ ending) = itemsOf glued rest := by
  cases cut : Sequence.cutFirst? (· == ')') rest with
  | none =>
      have absent := Sequence.forall_beq_eq_false_iff.1 ((Sequence.cutFirst?_eq_none_iff _).1 cut)
      rw [itemsOf_of_not_mem glued absent, itemsOf_of_not_mem]
      rw [List.mem_append, not_or]
      exact ⟨absent, unclosed⟩
  | some parts =>
      obtain ⟨entries, separator, after⟩ := parts
      obtain ⟨shape, hit, plain⟩ := (Sequence.cutFirst?_eq_some_iff _).1 cut
      rw [beq_iff_eq] at hit
      subst hit
      have absent := Sequence.forall_beq_eq_false_iff.1 plain
      rw [shape, itemsOf_append glued absent, List.append_assoc, List.cons_append,
        itemsOf_append glued absent]

/-- An ending without parentheses neither opens nor closes a marker. -/
theorem extractFrom_append_of_not_mem {ending : Text} (unopened : '(' ∉ ending)
    (unclosed : ')' ∉ ending) (progress : Progress) (line : Text) :
    extractFrom progress (line ++ ending) = extractFrom progress line := by
  induction progress, line using extractFrom.induct with
  | case1 progress =>
      rw [List.nil_append, extractFrom_nil]
      cases progress with
      | searching glued => exact extractFrom_searching_of_not_mem unopened glued
      | inside => exact extractFrom_inside_of_not_mem unclosed
  | case2 glued rest inductionHypothesis =>
      have opens := extractFrom_searching_opening glued
      calc
        extractFrom (.searching glued) (opening ++ (rest ++ ending)) =
            itemsOf glued (rest ++ ending) ++ extractFrom .inside (rest ++ ending) := opens _
        _ = itemsOf glued rest ++ extractFrom .inside rest := by
            rw [itemsOf_append_of_not_mem glued rest unclosed, inductionHypothesis]
        _ = extractFrom (.searching glued) (opening ++ rest) := (opens rest).symm
  | case3 glued character rest apart inductionHypothesis =>
      have notHere : ¬ opening <+: character :: rest := by
        rintro ⟨after, shape⟩
        obtain ⟨first, others⟩ := List.cons.inj shape
        exact apart after first.symm others.symm
      have notLonger : ¬ opening <+: character :: (rest ++ ending) := by
        rw [← List.cons_append,
          Sequence.prefix_append_iff_of_getLast? (show opening.getLast? = some '(' from rfl) unopened]
        exact notHere
      rw [List.cons_append, extractFrom_searching_cons notLonger,
        extractFrom_searching_cons notHere, inductionHypothesis]
  | case4 rest inductionHypothesis =>
      rw [List.cons_append, extractFrom, extractFrom, if_pos rfl, if_pos rfl, inductionHypothesis]
  | case5 character rest other inductionHypothesis =>
      rw [List.cons_append, extractFrom, extractFrom, if_neg other, if_neg other,
        inductionHypothesis]

theorem extract_append_of_isAllBlank (line : Text) {layout : Text}
    (blank : Text.isAllBlank layout = true) : extract (line ++ layout) = extract line :=
  extractFrom_append_of_not_mem (Text.not_mem_of_isAllBlank blank (by decide))
    (Text.not_mem_of_isAllBlank blank (by decide)) _ line

/-- Layout glues nothing to a word. -/
theorem extract_prepend_of_isAllBlank {layout : Text} (blank : Text.isAllBlank layout = true)
    (line : Text) : extract (layout ++ line) = extract line := by
  induction layout with
  | nil => rfl
  | cons head tail inductionHypothesis =>
      rw [Text.isAllBlank, List.all_cons, Bool.and_eq_true] at blank
      have notHere : ¬ opening <+: head :: (tail ++ line) := by
        rintro ⟨after, shape⟩
        rw [← (List.cons.inj shape).1] at blank
        exact absurd blank.1 (by decide)
      have separate : Text.isWordCharacter head = false := by
        rw [Bool.eq_false_iff]
        intro word
        rw [Text.not_isBlank_of_isWordCharacter word] at blank
        exact absurd blank.1 (by decide)
      rw [List.cons_append, extract, extractFrom_searching_cons notHere, separate]
      exact inductionHypothesis blank.2

end Marker

end BacklogTrace
