import BacklogTrace.Proofs.Marker.LookAlike

/-!
Contract: tickets that are written as a report shows them are read back.

The items of every line are tickets: their names match the patterns of their
systems. A marker that lists tickets in their written form is read back as these
tickets, in any text that neither opens a marker of its own nor glues a word to this
one. So reading, writing and reading again changes nothing, and what has been read
is told apart by how it is written: items by their own form, lists by the form that
a report gives them.

Owns: `Item.IsTicket`, `Marker.written`.

Does not own: other spellings of the same entries (`Proofs.Marker.Grammar`).
-/

namespace BacklogTrace

namespace Item

/-- An item whose ticket name matches the pattern of its system. -/
def IsTicket (item : Item) : Prop :=
  item.id ∈ item.source.pattern.matches'

theorem isWellFormed_iff_isTicket {item : Item} : item.isWellFormed = true ↔ item.IsTicket :=
  Source.admits_iff_matches

/-- A written item is cut again at its first colon, as no tag holds one. -/
theorem cutFirst?_shown (item : Item) :
    Sequence.cutFirst? (· == ':') item.shown = some (item.source.tag, ':', item.id) := by
  have noColon : ':' ∉ item.source.tag := by
    cases item.source <;> decide
  exact Sequence.cutFirst?_append_cons noColon item.id

theorem shown_injective : Function.Injective shown := by
  intro item other same
  have cut := item.cutFirst?_shown
  rw [same, other.cutFirst?_shown] at cut
  obtain ⟨tag, others⟩ := Prod.mk.inj (Option.some.inj cut)
  have source : other.source = item.source := by
    have known := Source.ofTag?_tag other.source
    rw [tag, Source.ofTag?_tag] at known
    exact (Option.some.inj known).symm
  have id : other.id = item.id := (Prod.mk.inj others).2
  cases item
  cases other
  exact congrArg₂ Item.mk id.symm source.symm

end Item

namespace Marker

/-- The marker that lists the given items. -/
def written (items : List Item) : Text :=
  opening ++ (Item.shownList items ++ [')'])

theorem isTicket_of_mem_extract {line : Text} {item : Item} (member : item ∈ extract line) :
    item.IsTicket :=
  Item.isWellFormed_iff_isTicket.1 (isWellFormed_of_mem_extractFrom member)

theorem not_leavesOpen_of_not_isInfix {text : Text} (unopened : ¬ opening <:+: text) :
    ¬ LeavesOpen text := by
  intro ⟨before, rest, shape, _⟩
  exact unopened ⟨before, rest, by rw [shape, List.append_assoc]⟩

theorem readEntries_shownList_of_isTicket {items : List Item}
    (tickets : ∀ item ∈ items, item.IsTicket) : readEntries (Item.shownList items) = items :=
  readEntries_shownList fun item member => Item.isWellFormed_iff_isTicket.2 (tickets item member)

/-- A written marker is read back between texts that open no other. -/
theorem extract_append_written {front after : Text} {items : List Item}
    (unopened : ¬ opening <:+: front) (apart : ¬ EndsInWord front)
    (tickets : ∀ item ∈ items, item.IsTicket) (unopenedAfter : ¬ opening <:+: after) :
    extract (front ++ written items ++ after) = items := by
  have unclosed : ')' ∉ Item.shownList items :=
    Item.not_mem_shownList
      (fun item member => Item.isWellFormed_iff_isTicket.2 (tickets item member))
      (by decide) (by decide)
  calc
    extract (front ++ written items ++ after)
        = extract (front ++ (opening ++ (Item.shownList items ++ ')' :: after))) := by
          simp [written]
    _ = extract front ++ (readEntries (Item.shownList items) ++ extract after) :=
          extract_append_marker apart (not_leavesOpen_of_not_isInfix unopened) unclosed after
    _ = [] ++ (items ++ []) := by
          rw [extract_of_isUnmarked (.inl unopened), extract_of_isUnmarked (.inl unopenedAfter),
            readEntries_shownList_of_isTicket tickets]
    _ = items := by rw [List.nil_append, List.append_nil]

theorem extract_written {items : List Item} (tickets : ∀ item ∈ items, item.IsTicket) :
    extract (written items) = items := by
  have read : extract ([] ++ written items ++ []) = items :=
    extract_append_written (by decide) (by decide) tickets (by decide)
  rwa [List.nil_append, List.append_nil] at read

/-- Tickets are read back from where they are written, every line lists tickets only,
and what lines list is told apart by its written form. -/
theorem written_tickets_are_read_back :
    (∀ (front after : Text) (items : List Item), ¬ opening <:+: front → ¬ EndsInWord front →
      ¬ opening <:+: after → (∀ item ∈ items, item.IsTicket) →
        extract (front ++ written items ++ after) = items) ∧
    (∀ line, (∀ item ∈ extract line, item.IsTicket) ∧
      extract (written (extract line)) = extract line) ∧
    Set.InjOn Item.shown { item | ∃ line, item ∈ extract line } ∧
    Set.InjOn Item.shownList (Set.range extract) := by
  refine ⟨?_, ?_, Item.shown_injective.injOn, ?_⟩
  · intro front after items unopened apart unopenedAfter tickets
    exact extract_append_written unopened apart tickets unopenedAfter
  · intro line
    have tickets : ∀ item ∈ extract line, item.IsTicket := fun _ => isTicket_of_mem_extract
    exact ⟨tickets, extract_written tickets⟩
  · intro items ⟨line, listed⟩ others ⟨other, otherListed⟩ same
    subst listed otherListed
    have read : extract (written (extract line)) = extract line :=
      extract_written fun _ => isTicket_of_mem_extract
    have readOther : extract (written (extract other)) = extract other :=
      extract_written fun _ => isTicket_of_mem_extract
    rw [written, same] at read
    exact read.symm.trans readOther

/-- Two tickets behind a call that looks like a marker but opens none. -/
theorem written_tickets_are_read_back_behind_call :
    (¬ opening <:+: "e.trace(x); // ".toList ∧ ¬ EndsInWord "e.trace(x); // ".toList ∧
      ¬ opening <:+: " (see b)".toList ∧
      ∀ item ∈ [(⟨"o/r#2".toList, .gitHub⟩ : Item), ⟨"A-1".toList, .jira⟩], item.IsTicket) ∧
    extract ("e.trace(x); // ".toList ++
      written [⟨"o/r#2".toList, .gitHub⟩, ⟨"A-1".toList, .jira⟩] ++ " (see b)".toList) =
        [⟨"o/r#2".toList, .gitHub⟩, ⟨"A-1".toList, .jira⟩] := by
  have unopened : ¬ opening <:+: "e.trace(x); // ".toList := by decide
  have apart : ¬ EndsInWord "e.trace(x); // ".toList := by decide
  have unopenedAfter : ¬ opening <:+: " (see b)".toList := by decide
  have tickets : ∀ item ∈ [(⟨"o/r#2".toList, .gitHub⟩ : Item), ⟨"A-1".toList, .jira⟩],
      item.IsTicket := by
    simp only [← Item.isWellFormed_iff_isTicket]
    decide
  exact ⟨⟨unopened, apart, unopenedAfter, tickets⟩,
    written_tickets_are_read_back.1 _ _ _ unopened apart unopenedAfter tickets⟩

end Marker

end BacklogTrace
