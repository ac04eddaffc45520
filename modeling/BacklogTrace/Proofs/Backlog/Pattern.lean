import Mathlib.Computability.RegularExpressions
import BacklogTrace.Backlog.Item

/-!
Contract: the forms of ticket names as regular expressions.

A name is judged by cutting it, for one system at the last hyphen and for the
other at the first number sign and the first slash. Cut in this way or not, the
names that pass are those that match `[A-Za-z][A-Za-z0-9_]*-[0-9]+`, and
`[A-Za-z0-9._-]+/[A-Za-z0-9._-]+#[0-9]+`: no class of characters that stands next
to a delimiter contains it, so there is only one place to cut.

Owns: `Source.pattern`, `Source.admits_iff_matches`.

Does not own: where ticket names are found (`Proofs.Marker.Grammar`).
-/

namespace BacklogTrace

namespace TicketPattern

open RegularExpression

/-- One of the given characters. -/
def oneOf (characters : Text) : RegularExpression Char :=
  characters.foldr (fun character others => char character + others) 0

def atLeastOne (pattern : RegularExpression Char) : RegularExpression Char :=
  pattern * pattern.star

def letters : Text := "ABCDEFGHIJKLMNOPQRSTUVWXYZabcdefghijklmnopqrstuvwxyz".toList

def digits : Text := "0123456789".toList

/-- `[0-9]+` -/
def number : RegularExpression Char :=
  atLeastOne (oneOf digits)

/-- `[A-Za-z][A-Za-z0-9_]*` -/
def projectKey : RegularExpression Char :=
  oneOf letters * (oneOf (letters ++ digits ++ ['_'])).star

/-- `[A-Za-z0-9._-]+` -/
def repositoryName : RegularExpression Char :=
  atLeastOne (oneOf (letters ++ digits ++ ['.', '_', '-']))

/-- `[A-Za-z][A-Za-z0-9_]*-[0-9]+` -/
def jiraKey : RegularExpression Char :=
  projectKey * (char '-' * number)

/-- `[A-Za-z0-9._-]+/[A-Za-z0-9._-]+#[0-9]+` -/
def gitHubIssue : RegularExpression Char :=
  repositoryName * (char '/' * (repositoryName * (char '#' * number)))

/-! ## Texts that match -/

theorem mem_char_iff {character : Char} {text : Text} :
    text ∈ (char character).matches' ↔ text = [character] :=
  Iff.rfl

theorem mem_oneOf_iff {characters text : Text} :
    text ∈ (oneOf characters).matches' ↔ ∃ character ∈ characters, text = [character] := by
  induction characters with
  | nil => simp [oneOf, matches'_zero]
  | cons head tail inductionHypothesis =>
      change text ∈ (char head).matches' + (oneOf tail).matches' ↔ _
      rw [Language.mem_add, inductionHypothesis, mem_char_iff]
      simp

theorem mem_star_oneOf_iff {characters text : Text} :
    text ∈ (oneOf characters).star.matches' ↔ ∀ character ∈ text, character ∈ characters := by
  rw [matches'_star, Language.mem_kstar]
  constructor
  · rintro ⟨pieces, rfl, matching⟩ character member
    obtain ⟨piece, inside, here⟩ := List.mem_flatten.1 member
    obtain ⟨only, known, rfl⟩ := mem_oneOf_iff.1 (matching piece inside)
    rwa [List.mem_singleton.1 here]
  · intro known
    refine ⟨text.map fun character => [character], ?_, ?_⟩
    · rw [← List.flatMap_def, List.flatMap_singleton']
    · intro piece member
      obtain ⟨character, inside, rfl⟩ := List.mem_map.1 member
      exact mem_oneOf_iff.2 ⟨character, known character inside, rfl⟩

theorem mem_oneOf_mul_iff {characters text : Text} {pattern : RegularExpression Char} :
    text ∈ (oneOf characters * pattern).matches' ↔
      ∃ first ∈ characters, ∃ rest ∈ pattern.matches', text = first :: rest := by
  rw [matches'_mul, Language.mem_mul]
  constructor
  · rintro ⟨front, matching, rest, others, rfl⟩
    obtain ⟨first, known, rfl⟩ := mem_oneOf_iff.1 matching
    exact ⟨first, known, rest, others, rfl⟩
  · rintro ⟨first, known, rest, others, rfl⟩
    exact ⟨[first], mem_oneOf_iff.2 ⟨first, known, rfl⟩, rest, others, rfl⟩

theorem mem_atLeastOne_oneOf_iff {characters text : Text} :
    text ∈ (atLeastOne (oneOf characters)).matches' ↔
      text ≠ [] ∧ ∀ character ∈ text, character ∈ characters := by
  rw [atLeastOne, mem_oneOf_mul_iff]
  constructor
  · rintro ⟨first, known, rest, others, rfl⟩
    exact ⟨List.cons_ne_nil _ _, List.forall_mem_cons.2 ⟨known, mem_star_oneOf_iff.1 others⟩⟩
  · rintro ⟨nonempty, known⟩
    obtain ⟨first, rest, rfl⟩ := List.exists_cons_of_ne_nil nonempty
    rw [List.forall_mem_cons] at known
    exact ⟨first, known.1, rest, mem_star_oneOf_iff.2 known.2, rfl⟩

/-- A pattern, a character and a pattern. -/
theorem mem_mul_char_mul_iff {left right : RegularExpression Char} {separator : Char}
    {text : Text} :
    text ∈ (left * (char separator * right)).matches' ↔
      ∃ before ∈ left.matches', ∃ after ∈ right.matches', text = before ++ separator :: after := by
  rw [matches'_mul, Language.mem_mul]
  constructor
  · rintro ⟨before, first, others, matching, rfl⟩
    rw [matches'_mul, Language.mem_mul] at matching
    obtain ⟨middle, only, after, second, rfl⟩ := matching
    rw [mem_char_iff.1 only]
    exact ⟨before, first, after, second, rfl⟩
  · rintro ⟨before, first, after, second, rfl⟩
    refine ⟨before, first, separator :: after, ?_, rfl⟩
    rw [matches'_mul, Language.mem_mul]
    exact ⟨[separator], mem_char_iff.2 rfl, after, second, rfl⟩

/-! ## Classes of characters -/

theorem mem_letters_iff {character : Char} : character ∈ letters ↔ character.isAlpha = true := by
  constructor
  · intro member
    have all : letters.all Char.isAlpha = true := by decide
    exact List.all_eq_true.1 all character member
  · intro letter
    have upper : ∀ place < 26, Char.ofNat (65 + place) ∈ letters := by decide
    have lower : ∀ place < 26, Char.ofNat (97 + place) ∈ letters := by decide
    have either : character.isUpper = true ∨ character.isLower = true :=
      Bool.or_eq_true_iff.1 letter
    rcases either with large | small
    · have range : 'A'.val ≤ character.val ∧ character.val ≤ 'Z'.val := of_decide_eq_true large
      have least : 65 ≤ character.toNat := range.1
      have most : character.toNat ≤ 90 := range.2
      have here := upper (character.toNat - 65) (by omega)
      rwa [Nat.add_sub_cancel' least, Char.ofNat_toNat] at here
    · obtain ⟨notBelow, notAbove⟩ := Bool.and_eq_true_iff.1 small
      have least : 97 ≤ character.toNat := of_decide_eq_true notBelow
      have most : character.toNat ≤ 122 := of_decide_eq_true notAbove
      have here := lower (character.toNat - 97) (by omega)
      rwa [Nat.add_sub_cancel' least, Char.ofNat_toNat] at here

theorem mem_digits_iff {character : Char} : character ∈ digits ↔ character.isDigit = true := by
  constructor
  · intro member
    have all : digits.all Char.isDigit = true := by decide
    exact List.all_eq_true.1 all character member
  · intro digit
    have known : ∀ place < 10, Char.ofNat (48 + place) ∈ digits := by decide
    simp only [Char.isDigit, Bool.and_eq_true, decide_eq_true_eq, ge_iff_le,
      UInt32.le_iff_toNat_le] at digit
    have least : 48 ≤ character.toNat := digit.1
    have most : character.toNat ≤ 57 := digit.2
    have here := known (character.toNat - 48) (by omega)
    rwa [Nat.add_sub_cancel' least, Char.ofNat_toNat] at here

theorem mem_letters_digits_iff {character : Char} {signs : Text} :
    character ∈ letters ++ digits ++ signs ↔
      character.isAlphanum = true ∨ character ∈ signs := by
  rw [List.mem_append, List.mem_append, mem_letters_iff, mem_digits_iff, Char.isAlphanum,
    Bool.or_eq_true]

theorem isTicketNumber_iff_matches {text : Text} :
    isTicketNumber text = true ↔ text ∈ number.matches' := by
  rw [number, mem_atLeastOne_oneOf_iff]
  simp only [isTicketNumber, Bool.and_eq_true, Bool.not_eq_true', List.isEmpty_eq_false_iff,
    List.all_eq_true, mem_digits_iff]

theorem isProjectKey_iff_matches {text : Text} :
    isProjectKey text = true ↔ text ∈ projectKey.matches' := by
  rw [projectKey, mem_oneOf_mul_iff]
  cases text with
  | nil => simp [isProjectKey]
  | cons first rest =>
      simp only [isProjectKey, Bool.and_eq_true, List.all_eq_true, Bool.or_eq_true, beq_iff_eq,
        mem_star_oneOf_iff, mem_letters_digits_iff, mem_letters_iff, List.mem_singleton,
        List.cons.injEq]
      constructor
      · rintro ⟨letter, others⟩
        exact ⟨first, letter, rest, others, rfl, rfl⟩
      · rintro ⟨_, letter, _, others, rfl, rfl⟩
        exact ⟨letter, others⟩

theorem isRepositoryName_iff_matches {text : Text} :
    isRepositoryName text = true ↔ text ∈ repositoryName.matches' := by
  rw [repositoryName, mem_atLeastOne_oneOf_iff]
  simp only [isRepositoryName, Bool.and_eq_true, Bool.not_eq_true', List.isEmpty_eq_false_iff,
    List.all_eq_true, Bool.or_eq_true, beq_iff_eq, mem_letters_digits_iff, List.mem_cons,
    List.not_mem_nil, or_false]
  grind

/-! ## Cuts -/

/-- What stands in none of the characters of a text does not cut it. -/
theorem forall_beq_eq_false_of_matches {characters text : Text} {separator : Char}
    (matching : text ∈ (atLeastOne (oneOf characters)).matches') (foreign : separator ∉ characters) :
    ∀ character ∈ text, (character == separator) = false :=
  Sequence.forall_beq_eq_false_iff.2 fun member =>
    foreign ((mem_atLeastOne_oneOf_iff.1 matching).2 separator member)

theorem isJiraKey_iff_matches {id : Text} : isJiraKey id = true ↔ id ∈ jiraKey.matches' := by
  rw [jiraKey, mem_mul_char_mul_iff, isJiraKey]
  constructor
  · intro admitted
    split at admitted
    · exact absurd admitted (by decide)
    · rename_i project hyphen ending cut
      obtain ⟨rfl, hit, -⟩ := (Sequence.cutLast?_eq_some_iff _).1 cut
      rw [Bool.and_eq_true, isProjectKey_iff_matches, isTicketNumber_iff_matches] at admitted
      exact ⟨project, admitted.1, ending, admitted.2, by rw [beq_iff_eq.1 hit]⟩
  · rintro ⟨project, key, ending, numbered, rfl⟩
    have cut : Sequence.cutLast? (· == '-') (project ++ '-' :: ending) =
        some (project, '-', ending) :=
      (Sequence.cutLast?_eq_some_iff _).2
        ⟨rfl, by decide, forall_beq_eq_false_of_matches numbered (by decide)⟩
    simp [cut, isProjectKey_iff_matches.2 key, isTicketNumber_iff_matches.2 numbered]

theorem isGitHubIssue_iff_matches {id : Text} :
    isGitHubIssue id = true ↔ id ∈ gitHubIssue.matches' := by
  rw [gitHubIssue, mem_mul_char_mul_iff, isGitHubIssue]
  constructor
  · intro admitted
    split at admitted
    · exact absurd admitted (by decide)
    · rename_i place sign ending cut
      split at admitted
      · exact absurd admitted (by decide)
      · rename_i owner slash repository cutPlace
        obtain ⟨rfl, hit, -⟩ := (Sequence.cutFirst?_eq_some_iff _).1 cut
        obtain ⟨rfl, hitPlace, -⟩ := (Sequence.cutFirst?_eq_some_iff _).1 cutPlace
        simp only [Bool.and_eq_true, isRepositoryName_iff_matches,
          isTicketNumber_iff_matches] at admitted
        refine ⟨owner, admitted.1.1, repository ++ '#' :: ending,
          mem_mul_char_mul_iff.2 ⟨repository, admitted.1.2, ending, admitted.2, rfl⟩, ?_⟩
        rw [beq_iff_eq.1 hit, beq_iff_eq.1 hitPlace, List.append_assoc, List.cons_append]
  · rintro ⟨owner, owned, others, matching, rfl⟩
    obtain ⟨repository, named, ending, numbered, rfl⟩ := mem_mul_char_mul_iff.1 matching
    have cut : Sequence.cutFirst? (· == '#') (owner ++ '/' :: (repository ++ '#' :: ending)) =
        some (owner ++ '/' :: repository, '#', ending) := by
      refine (Sequence.cutFirst?_eq_some_iff _).2 ⟨by simp, by decide, ?_⟩
      intro character member
      rcases List.mem_append.1 member with inOwner | member
      · exact forall_beq_eq_false_of_matches owned (by decide) character inOwner
      · rcases List.mem_cons.1 member with rfl | inRepository
        · decide
        · exact forall_beq_eq_false_of_matches named (by decide) character inRepository
    have cutPlace : Sequence.cutFirst? (· == '/') (owner ++ '/' :: repository) =
        some (owner, '/', repository) :=
      (Sequence.cutFirst?_eq_some_iff _).2
        ⟨rfl, by decide, forall_beq_eq_false_of_matches owned (by decide)⟩
    simp [cut, cutPlace, isRepositoryName_iff_matches.2 owned,
      isRepositoryName_iff_matches.2 named, isTicketNumber_iff_matches.2 numbered]

end TicketPattern

/-- The pattern of the ticket names of a system. -/
def Source.pattern : Source → RegularExpression Char
  | .jira => TicketPattern.jiraKey
  | .gitHub => TicketPattern.gitHubIssue

theorem Source.admits_iff_matches {source : Source} {id : Text} :
    source.admits id = true ↔ id ∈ source.pattern.matches' := by
  cases source with
  | jira => exact TicketPattern.isJiraKey_iff_matches
  | gitHub => exact TicketPattern.isGitHubIssue_iff_matches

end BacklogTrace
