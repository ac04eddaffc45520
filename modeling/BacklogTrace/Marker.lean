import BacklogTrace.Backlog.Item
import BacklogTrace.Text.Alphanumeric

/-!
Contract: the backlog items that the trace markers of a line list.

A marker is `Trace(`, a list of entries between commas, and `)`. An occurrence
of `Trace(` that is glued to a word before it is no marker, yet it takes the
text up to its `)` like one. Without a `)` the line holds no further marker.

Owns: `Marker.extract`, the grammar of entries.

Does not own: the forms of ticket names (`Source.admits`).
-/

namespace BacklogTrace.Marker

def opening : Text := "Trace(".toList

/-- The item of an entry: a tag, the first colon and a name, with layout around
each. Any other entry is skipped. -/
def readEntry (entry : Text) : Option Item :=
  match Sequence.cutFirst? (· == ':') entry with
  | none => none
  | some (tag, _, id) =>
      match Source.ofTag? (Text.trim tag) with
      | none => none
      | some source =>
          if source.admits (Text.trim id) then some ⟨Text.trim id, source⟩ else none

/-- The items of what stands between the parentheses of a marker. -/
def readEntries (entries : Text) : List Item :=
  (Sequence.splitOn ',' entries).filterMap readEntry

/-- Where reading stands on a line. -/
inductive Progress where
  /-- Before the next marker; `glued` when the character just read would make it
  the end of a longer word. -/
  | searching (glued : Bool)
  | inside
deriving DecidableEq, Repr

/-- The items of a marker that the rest of the line may close. -/
def itemsOf (glued : Bool) (rest : Text) : List Item :=
  match Sequence.cutFirst? (· == ')') rest with
  | none => []
  | some (entries, _, _) => if glued then [] else readEntries entries

def extractFrom : Progress → Text → List Item
  | _, [] => []
  | .searching glued, 'T' :: 'r' :: 'a' :: 'c' :: 'e' :: '(' :: rest =>
      itemsOf glued rest ++ extractFrom .inside rest
  | .searching _, character :: rest =>
      extractFrom (.searching (Text.isWordCharacter character)) rest
  | .inside, character :: rest =>
      if character = ')' then
        extractFrom (.searching false) rest
      else
        extractFrom .inside rest

/-- The items of every marker of a line, in order. -/
def extract (line : Text) : List Item :=
  extractFrom (.searching false) line

@[simp] theorem extractFrom_nil (progress : Progress) : extractFrom progress [] = [] := by
  cases progress <;> rfl

theorem extractFrom_searching_opening (glued : Bool) (rest : Text) :
    extractFrom (.searching glued) (opening ++ rest) =
      itemsOf glued rest ++ extractFrom .inside rest :=
  rfl

/-- The entries of a marker are what stands before its closing parenthesis. -/
theorem itemsOf_append (glued : Bool) {entries after : Text} (unclosed : ')' ∉ entries) :
    itemsOf glued (entries ++ ')' :: after) = if glued then [] else readEntries entries := by
  have cut : Sequence.cutFirst? (· == ')') (entries ++ ')' :: after) =
      some (entries, ')', after) :=
    (Sequence.cutFirst?_eq_some_iff _).2
      ⟨rfl, by simp, Sequence.forall_beq_eq_false_iff.2 unclosed⟩
  simp [itemsOf, cut]

theorem itemsOf_of_not_mem (glued : Bool) {rest : Text} (unclosed : ')' ∉ rest) :
    itemsOf glued rest = [] := by
  simp [itemsOf, (Sequence.cutFirst?_eq_none_iff _).2
    (Sequence.forall_beq_eq_false_iff.2 unclosed)]

/-- A marker takes the line up to its closing parenthesis. -/
theorem extractFrom_inside_append {entries after : Text} (unclosed : ')' ∉ entries) :
    extractFrom .inside (entries ++ ')' :: after) = extract after := by
  induction entries with
  | nil => simp [extractFrom, extract]
  | cons head tail inductionHypothesis =>
      simp only [List.mem_cons, not_or] at unclosed
      have different : ¬ head = ')' := fun equal => unclosed.1 equal.symm
      simp [extractFrom, different, inductionHypothesis unclosed.2]

theorem extractFrom_inside_of_not_mem {rest : Text} (unclosed : ')' ∉ rest) :
    extractFrom .inside rest = [] := by
  induction rest with
  | nil => rfl
  | cons head tail inductionHypothesis =>
      simp only [List.mem_cons, not_or] at unclosed
      have different : ¬ head = ')' := fun equal => unclosed.1 equal.symm
      simp [extractFrom, different, inductionHypothesis unclosed.2]

end BacklogTrace.Marker
