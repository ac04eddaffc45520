import BacklogTrace.Proofs.Marker.Grammar

/-!
Contract: when the text before a marker hides it.

A marker of its own, one that no word is glued to, is found behind every text in
which each opening is closed again, and its items stand between those of the text
before it and those of the text after it. Behind a text that leaves an opening
open, the marker only closes that opening: its opening is then part of an entry,
which no ticket name can hold, so its first entry is lost, and all of them are
where a word is glued to the open one.

Owns: `markerInduction`, `LeavesOpen`, the items of a line with a marker in it, and
`marker_is_found_iff`.

Does not own: the grammar of markers (`Proofs.Marker.Grammar`).
-/

namespace BacklogTrace.Marker

/-- Induction over the markers of a line, from the last to the first. -/
theorem markerInduction {motive : Text → Prop}
    (unmarked : ∀ line, IsUnmarked line → motive line)
    (marked : ∀ line before entries after, IsFirstMarker line before entries after →
      motive after → motive line)
    (line : Text) : motive line := by
  induction size : line.length using Nat.strong_induction_on generalizing line with
  | _ length inductionHypothesis =>
      by_cases none : IsUnmarked line
      · exact unmarked line none
      · obtain ⟨before, entries, after, first⟩ := exists_isFirstMarker none
        apply marked line before entries after first
        exact inductionHypothesis after.length (size ▸ first.length_lt) after rfl

theorem EndsInWord.prepend {text : Text} (word : EndsInWord text) (front : Text) :
    EndsInWord (front ++ text) := by
  obtain ⟨last, ends, continues⟩ := word
  refine ⟨last, ?_, continues⟩
  rw [List.getLast?_append, ends]
  rfl

/-! ## Openings that are left open -/

/-- Nothing closes some opening of the text. -/
def LeavesOpen (text : Text) : Prop :=
  ∃ before rest, text = before ++ (opening ++ rest) ∧ ')' ∉ rest

theorem IsFirstMarker.leavesOpen_iff {line before entries after : Text}
    (first : IsFirstMarker line before entries after) : LeavesOpen line ↔ LeavesOpen after := by
  have shape : line = (before ++ (opening ++ entries)) ++ ')' :: after := by
    rw [first.opens.shape, List.append_assoc, List.append_assoc]
  constructor
  · rintro ⟨front, rest, other, unclosed⟩
    rw [shape] at other
    rcases List.append_eq_append_iff.1 other with ⟨middle, rfl, ending⟩ | ⟨middle, -, ending⟩
    · cases middle with
      | nil => exact absurd (List.cons.inj ending).1 (by decide)
      | cons head others => exact ⟨others, rest, (List.cons.inj ending).2, unclosed⟩
    · have closed : ')' ∈ opening ++ rest := ending ▸ by simp
      rcases List.mem_append.1 closed with inOpening | inRest
      · exact absurd inOpening (by decide)
      · exact absurd inRest unclosed
  · rintro ⟨front, rest, rfl, unclosed⟩
    exact ⟨before ++ (opening ++ entries) ++ ')' :: front, rest, by rw [shape]; simp, unclosed⟩

theorem IsUnmarked.not_isInfix {line : Text} (unmarked : IsUnmarked line)
    (closed : ¬ LeavesOpen line) : ¬ opening <:+: line := by
  rcases unmarked with unopened | ⟨before, rest, opens, unclosed⟩
  · exact unopened
  · exact absurd ⟨before, rest, opens.shape, unclosed⟩ closed

/-- Behind a text that closes its openings a marker is read by itself. -/
theorem extract_append_marker {front entries : Text} (apart : ¬ EndsInWord front)
    (closed : ¬ LeavesOpen front) (unclosed : ')' ∉ entries) (after : Text) :
    extract (front ++ (opening ++ (entries ++ ')' :: after))) =
      extract front ++ (readEntries entries ++ extract after) := by
  induction front using markerInduction with
  | unmarked front unmarked =>
      have unopened := unmarked.not_isInfix closed
      have first : IsFirstMarker (front ++ (opening ++ (entries ++ ')' :: after))) front
          entries after := ⟨opensAt_append unopened _, unclosed⟩
      rw [first.extract_eq, if_neg apart, extract_of_isUnmarked unmarked]
      rfl
  | marked front before others rest first inductionHypothesis =>
      have apartRest : ¬ EndsInWord rest := by
        intro word
        apply apart
        rw [first.opens.shape]
        have longer := word.prepend (before ++ (opening ++ (others ++ [')'])))
        simpa using longer
      have next := inductionHypothesis apartRest (fun opened => closed (first.leavesOpen_iff.2 opened))
      rw [(first.append _).extract_eq, first.extract_eq, next]
      simp only [List.append_assoc]

/-- Behind a text that leaves an opening open a marker ends the entries of that
opening, none of which counts where a word is glued to it. -/
theorem exists_extract_append_hidden {front : Text} (opened : LeavesOpen front) :
    ∃ (begun : Text) (glued : Bool), begun.length ≤ front.length ∧
      ∀ entries after, ')' ∉ entries →
        extract (front ++ (opening ++ (entries ++ ')' :: after))) =
          extract front ++ ((if glued then [] else readEntries (begun ++ (opening ++ entries))) ++
            extract after) := by
  induction front using markerInduction with
  | unmarked front unmarked =>
      rcases unmarked with unopened | ⟨before, begun, opens, unclosed⟩
      · obtain ⟨before, rest, shape, -⟩ := opened
        exact absurd ⟨before, rest, by rw [shape, List.append_assoc]⟩ unopened
      · refine ⟨begun, decide (EndsInWord before), ?_, fun entries after closes => ?_⟩
        · rw [opens.shape, List.length_append, List.length_append]
          omega
        · have first : IsFirstMarker (front ++ (opening ++ (entries ++ ')' :: after))) before
              (begun ++ (opening ++ entries)) after := by
            constructor
            · have longer := opens.append (opening ++ (entries ++ ')' :: after))
              simpa only [List.append_assoc] using longer
            · rw [List.mem_append, List.mem_append, not_or, not_or]
              exact ⟨unclosed, by decide, closes⟩
          rw [first.extract_eq, extract_of_isUnmarked (.inr ⟨before, begun, opens, unclosed⟩)]
          simp only [decide_eq_true_eq, List.nil_append]
  | marked front before others rest first inductionHypothesis =>
      obtain ⟨begun, glued, short, hidden⟩ := inductionHypothesis (first.leavesOpen_iff.1 opened)
      refine ⟨begun, glued, Nat.le_trans short (Nat.le_of_lt first.length_lt),
        fun entries after closes => ?_⟩
      rw [(first.append _).extract_eq, first.extract_eq, hidden entries after closes]
      simp only [List.append_assoc]

/-! ## Ticket names fit into what they are read from -/

theorem length_id_le_of_isEntry {entry : Text} {item : Item} (written : IsEntry entry item) :
    item.id.length ≤ entry.length := by
  obtain ⟨layout, named, matching⟩ := written
  simp only [List.length_append, List.length_cons]
  omega

theorem length_id_le_of_mem_readEntries {entries : Text} {item : Item}
    (member : item ∈ readEntries entries) : item.id.length ≤ entries.length := by
  obtain ⟨piece, inside, written⟩ := mem_readEntries_iff.1 member
  have short := length_id_le_of_isEntry written
  have fits : piece.length ≤ entries.length := by
    rw [← Sequence.intercalate_splitOn ',' entries]
    exact (Sequence.isInfix_intercalate inside).length_le
  omega

theorem length_id_le_of_mem_extract {line : Text} {item : Item} (member : item ∈ extract line) :
    item.id.length ≤ line.length := by
  induction line using markerInduction with
  | unmarked line unmarked =>
      rw [extract_of_isUnmarked unmarked] at member
      exact absurd member List.not_mem_nil
  | marked line before entries after first inductionHypothesis =>
      rw [first.extract_eq] at member
      rcases List.mem_append.1 member with here | later
      · split at here
        · exact absurd here List.not_mem_nil
        · have short := length_id_le_of_mem_readEntries here
          rw [first.opens.shape]
          simp only [List.length_append]
          omega
      · exact Nat.le_trans (inductionHypothesis later) (Nat.le_of_lt first.length_lt)

/-- An opening cannot stand in an entry. -/
theorem not_mem_of_isEntry {entry : Text} {item : Item} (written : IsEntry entry item) :
    '(' ∉ entry := by
  obtain @⟨front, tag, beforeColon, afterColon, id, back, source, layout, named, matching⟩ := written
  have absent : '('.toLower ∉ source.tag.map Char.toLower := by cases source <;> decide
  have inId : '(' ∉ id := by
    intro member
    have wellFormed : Item.isWellFormed ⟨id, source⟩ = true := Source.admits_iff_matches.2 matching
    exact absurd (Item.isIdCharacter_of_mem_id wellFormed '(' member) (by decide)
  have inLayout : ∀ text ∈ [front, beforeColon, afterColon, back], '(' ∉ text :=
    fun text member => Text.not_mem_of_isAllBlank (layout text member) (by decide)
  simp only [List.mem_append, List.mem_cons, not_or]
  exact ⟨⟨⟨inLayout front (by simp), Source.not_mem_of_named named absent⟩,
    inLayout beforeColon (by simp)⟩, by decide,
    ⟨⟨inLayout afterColon (by simp), inId⟩, inLayout back (by simp)⟩⟩

/-- The first entry behind an open opening is lost with it. -/
theorem readEntries_append_opening (begun : Text) {entry : Text} (single : ',' ∉ entry) :
    ∃ shorter, shorter.length ≤ begun.length ∧
      readEntries (begun ++ (opening ++ entry)) = readEntries shorter := by
  have lost : ∀ last, ',' ∉ last → readEntries (last ++ (opening ++ entry)) = [] := by
    intro last plain
    rw [List.eq_nil_iff_forall_not_mem]
    intro item member
    obtain ⟨piece, inside, written⟩ := mem_readEntries_iff.1 member
    have whole : ',' ∉ last ++ (opening ++ entry) := by
      rw [List.mem_append, List.mem_append, not_or, not_or]
      exact ⟨plain, by decide, single⟩
    rw [Sequence.splitOn_of_not_mem whole, List.mem_singleton] at inside
    apply not_mem_of_isEntry written
    rw [inside]
    exact List.mem_append_right last (List.mem_append_left entry (by decide))
  cases cut : Sequence.cutLast? (· == ',') begun with
  | none =>
      have plain := Sequence.forall_beq_eq_false_iff.1 ((Sequence.cutLast?_eq_none_iff _).1 cut)
      exact ⟨[], Nat.zero_le _, lost begun plain⟩
  | some parts =>
      obtain ⟨shorter, comma, last⟩ := parts
      obtain ⟨rfl, hit, plain⟩ := (Sequence.cutLast?_eq_some_iff _).1 cut
      refine ⟨shorter, by rw [List.length_append]; omega, ?_⟩
      have rest := lost last (Sequence.forall_beq_eq_false_iff.1 plain)
      unfold readEntries Sequence.splitOn at rest ⊢
      rw [List.append_assoc, List.cons_append,
        Sequence.splitWhere_append_separator (· == ',') hit, List.filterMap_append, rest,
        List.append_nil]

/-! ## Markers that are found -/

/-- An entry whose ticket name is longer than a given length. -/
theorem exists_isEntry_longer (length : Nat) :
    ∃ entry item, IsEntry entry item ∧ length < item.id.length ∧
      ∀ delimiter ∈ ['(', ')', ','], delimiter ∉ entry := by
  have key : ['A'] ∈ TicketPattern.projectKey.matches' :=
    TicketPattern.isProjectKey_iff_matches.1 (by decide)
  have number : List.replicate (length + 1) '1' ∈ TicketPattern.number.matches' := by
    rw [TicketPattern.number, TicketPattern.mem_atLeastOne_oneOf_iff]
    refine ⟨List.cons_ne_nil _ _, fun digit member => ?_⟩
    rw [List.eq_of_mem_replicate member]
    decide
  have matching : ['A'] ++ '-' :: List.replicate (length + 1) '1' ∈ Source.jira.pattern.matches' :=
    TicketPattern.mem_mul_char_mul_iff.2 ⟨_, key, _, number, rfl⟩
  refine ⟨[] ++ Source.jira.tag ++ [] ++ ':' ::
    ([] ++ (['A'] ++ '-' :: List.replicate (length + 1) '1') ++ []), _,
    .written (by simp [Text.isAllBlank]) (by decide) matching, ?_, ?_⟩
  · simp only [List.length_append, List.length_cons, List.length_replicate]
    omega
  · intro delimiter foreign member
    simp only [List.mem_cons, List.not_mem_nil, or_false] at foreign
    rcases foreign with rfl | rfl | rfl <;>
      simp [Source.tag, List.mem_replicate] at member

/-- Every marker behind a text that does not end in a word is found exactly when the
text leaves no opening open. -/
theorem marker_is_found_iff {front : Text} (apart : ¬ EndsInWord front) :
    (∀ entries after, '(' ∉ entries → ')' ∉ entries →
      ∀ piece ∈ Sequence.splitOn ',' entries, ∀ item, IsEntry piece item →
        item ∈ extract (front ++ (opening ++ (entries ++ ')' :: after)))) ↔
      ¬ LeavesOpen front := by
  constructor
  · intro found opened
    obtain ⟨begun, glued, short, hidden⟩ := exists_extract_append_hidden opened
    obtain ⟨entry, item, written, long, plain⟩ := exists_isEntry_longer front.length
    obtain ⟨shorter, bound, others⟩ :=
      readEntries_append_opening begun (plain ',' (by decide))
    have single : entry ∈ Sequence.splitOn ',' entry := by
      rw [Sequence.splitOn_of_not_mem (plain ',' (by decide))]
      exact List.mem_singleton_self entry
    have member := found entry [] (plain '(' (by decide)) (plain ')' (by decide)) entry single
      item written
    rw [hidden entry [] (plain ')' (by decide)), others, show extract [] = [] from rfl,
      List.append_nil] at member
    -- whatever is read there comes from the text before the marker
    rcases List.mem_append.1 member with inFront | inEntries
    · have := length_id_le_of_mem_extract inFront
      omega
    · split at inEntries
      · exact absurd inEntries List.not_mem_nil
      · have := length_id_le_of_mem_readEntries inEntries
        omega
  · intro closed entries after _ unclosed piece inside item written
    rw [extract_append_marker apart closed unclosed]
    apply List.mem_append_right
    apply List.mem_append_left
    exact mem_readEntries_iff.2 ⟨piece, inside, written⟩

/-- A call that looks like a marker hides nothing once it is closed. -/
theorem marker_is_found_behind_closed_call :
    ¬ EndsInWord "e.printStackTrace(); // ".toList ∧
      ((∀ entries after, '(' ∉ entries → ')' ∉ entries →
        ∀ piece ∈ Sequence.splitOn ',' entries, ∀ item, IsEntry piece item →
          item ∈ extract ("e.printStackTrace(); // ".toList ++
            (opening ++ (entries ++ ')' :: after)))) ↔
        ¬ LeavesOpen "e.printStackTrace(); // ".toList) :=
  ⟨by decide, marker_is_found_iff (by decide)⟩

/-- A call that is still open takes the marker that follows it. -/
theorem not_marker_is_found_inside_call :
    ¬ ∀ front entries after : Text, ¬ EndsInWord front → '(' ∉ entries → ')' ∉ entries →
      ∀ piece ∈ Sequence.splitOn ',' entries, ∀ item, IsEntry piece item →
        item ∈ extract (front ++ (opening ++ (entries ++ ')' :: after))) := by
  intro found
  have written : IsEntry "Jira:A-1".toList ⟨"A-1".toList, .jira⟩ :=
    readEntry_eq_some_iff.1 (by decide)
  have member := found "e.printStackTrace( // ".toList "Jira:A-1".toList [] (by decide) (by decide)
    (by decide) "Jira:A-1".toList (by decide) _ written
  exact absurd member (by decide)

end BacklogTrace.Marker
