import BacklogTrace.Backlog.Item
import BacklogTrace.Proofs.Text

/-!
Contract: the characters of well-formed items.

A ticket name that a system admits is made of ASCII letters, digits and five
signs. So the written form of an item holds no layout, comma or parenthesis, and
no colon but the one after its tag: whatever delimits items cannot stand in one.

Owns: `isIdCharacter`, what stands in a written item.

Does not own: reading items back (`Proofs.Marker`).
-/

namespace BacklogTrace

/-- The characters of ticket names. -/
def isIdCharacter (character : Char) : Bool :=
  character.isAlphanum || ['_', '-', '.', '/', '#'].contains character

theorem isIdCharacter_of_isAlphanum {character : Char} (letter : character.isAlphanum = true) :
    isIdCharacter character = true := by
  rw [isIdCharacter, letter, Bool.true_or]

theorem isIdCharacter_of_isTicketNumber {number : Text} (digits : isTicketNumber number = true) :
    ∀ character ∈ number, isIdCharacter character = true := by
  intro character member
  simp only [isTicketNumber, Bool.and_eq_true, List.all_eq_true] at digits
  apply isIdCharacter_of_isAlphanum
  rw [Char.isAlphanum, digits.2 character member, Bool.or_true]

theorem isIdCharacter_of_isProjectKey {project : Text} (key : isProjectKey project = true) :
    ∀ character ∈ project, isIdCharacter character = true := by
  cases project with
  | nil => simp
  | cons first rest =>
      simp only [isProjectKey, Bool.and_eq_true, List.all_eq_true, Bool.or_eq_true,
        beq_iff_eq] at key
      intro character member
      rcases List.mem_cons.1 member with rfl | member
      · apply isIdCharacter_of_isAlphanum
        rw [Char.isAlphanum, key.1, Bool.true_or]
      · rcases key.2 character member with letter | rfl
        · exact isIdCharacter_of_isAlphanum letter
        · decide

theorem isIdCharacter_of_isRepositoryName {name : Text} (proper : isRepositoryName name = true) :
    ∀ character ∈ name, isIdCharacter character = true := by
  intro character member
  simp only [isRepositoryName, Bool.and_eq_true, List.all_eq_true, Bool.or_eq_true,
    beq_iff_eq] at proper
  rcases proper.2 character member with ((letter | rfl) | rfl) | rfl
  · exact isIdCharacter_of_isAlphanum letter
  · decide
  · decide
  · decide

theorem isIdCharacter_of_isJiraKey {id : Text} (admitted : isJiraKey id = true) :
    ∀ character ∈ id, isIdCharacter character = true := by
  unfold isJiraKey at admitted
  split at admitted
  · exact absurd admitted (by decide)
  · rename_i project hyphen number cut
    obtain ⟨rfl, hit, -⟩ := (Sequence.cutLast?_eq_some_iff _).1 cut
    rw [Bool.and_eq_true] at admitted
    intro character member
    rcases List.mem_append.1 member with inProject | member
    · exact isIdCharacter_of_isProjectKey admitted.1 character inProject
    · rcases List.mem_cons.1 member with rfl | inNumber
      · rw [beq_iff_eq.1 hit]
        decide
      · exact isIdCharacter_of_isTicketNumber admitted.2 character inNumber

theorem isIdCharacter_of_isGitHubIssue {id : Text} (admitted : isGitHubIssue id = true) :
    ∀ character ∈ id, isIdCharacter character = true := by
  unfold isGitHubIssue at admitted
  split at admitted
  · exact absurd admitted (by decide)
  · rename_i place sign number cut
    split at admitted
    · exact absurd admitted (by decide)
    · rename_i owner slash repository cutPlace
      obtain ⟨rfl, hit, -⟩ := (Sequence.cutFirst?_eq_some_iff _).1 cut
      obtain ⟨rfl, hitPlace, -⟩ := (Sequence.cutFirst?_eq_some_iff _).1 cutPlace
      simp only [Bool.and_eq_true] at admitted
      intro character member
      simp only [List.mem_append, List.mem_cons] at member
      rcases member with (inOwner | rfl | inRepository) | rfl | inNumber
      · exact isIdCharacter_of_isRepositoryName admitted.1.1 character inOwner
      · rw [beq_iff_eq.1 hitPlace]
        decide
      · exact isIdCharacter_of_isRepositoryName admitted.1.2 character inRepository
      · rw [beq_iff_eq.1 hit]
        decide
      · exact isIdCharacter_of_isTicketNumber admitted.2 character inNumber

namespace Item

theorem isIdCharacter_of_mem_id {item : Item} (wellFormed : item.isWellFormed = true) :
    ∀ character ∈ item.id, isIdCharacter character = true := by
  unfold isWellFormed at wellFormed
  cases source : item.source with
  | jira =>
      rw [source] at wellFormed
      exact isIdCharacter_of_isJiraKey wellFormed
  | gitHub =>
      rw [source] at wellFormed
      exact isIdCharacter_of_isGitHubIssue wellFormed

theorem isIdCharacter_of_mem_shown {item : Item} (wellFormed : item.isWellFormed = true) :
    ∀ character ∈ item.shown, isIdCharacter character = true ∨ character = ':' := by
  intro character member
  unfold shown at member
  simp only [List.mem_append, List.mem_cons] at member
  rcases member with inTag | rfl | inId
  · left
    have letters : ∀ source : Source, source.tag.all isIdCharacter = true := by
      intro source
      cases source <;> decide
    exact List.all_eq_true.1 (letters item.source) character inTag
  · exact Or.inr rfl
  · exact Or.inl (isIdCharacter_of_mem_id wellFormed character inId)

theorem not_mem_shown {item : Item} (wellFormed : item.isWellFormed = true) {delimiter : Char}
    (foreign : isIdCharacter delimiter = false) (noColon : delimiter ≠ ':') :
    delimiter ∉ item.shown := by
  intro member
  rcases isIdCharacter_of_mem_shown wellFormed delimiter member with id | colon
  · rw [foreign] at id
    exact absurd id (by decide)
  · exact noColon colon

theorem isSolid_shown {item : Item} (wellFormed : item.isWellFormed = true) :
    Text.IsSolid item.shown := by
  intro character member
  rw [Bool.eq_false_iff]
  intro blank
  have foreign : Text.blankCharacters.all
      (fun character => !isIdCharacter character && character != ':') = true := by
    decide
  have none := List.all_eq_true.1 foreign character (Text.isBlank_eq_true_iff.1 blank)
  simp only [Bool.and_eq_true, Bool.not_eq_true', bne_iff_ne] at none
  exact not_mem_shown wellFormed none.1 none.2 member

theorem isSolid_id {item : Item} (wellFormed : item.isWellFormed = true) :
    Text.IsSolid item.id :=
  fun character member => isSolid_shown wellFormed character (by simp [shown, member])

theorem isSolid_tag (source : Source) : Text.IsSolid source.tag := by
  apply Sequence.forall_of_any_eq_false
  cases source <;> decide

end Item

end BacklogTrace
