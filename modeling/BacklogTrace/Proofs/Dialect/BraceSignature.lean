import BacklogTrace.Dialect.BraceSignature
import BacklogTrace.Proofs.Text

/-!
Contract: which part of a line a brace signature is read from, and when reading
faults.

The head of a line is cut at the first `(` and the last `{`, so that nothing
after that `{` is looked at. Reading faults exactly where the last layout
character of the head, trimmed, takes more than one byte.

Owns: `BraceSignature.IsHead`, `BraceSignature.SplitsCharacter`, signatures in
layout, what a line with a signature holds.

Does not own: the grammar of names.
-/

namespace BacklogTrace.BraceSignature

/-- The head of a line stays when something without `{` is added to the line. -/
theorem head?_append_of_not_mem (line : Text) {ending : Text} (plain : '{' ∉ ending) :
    head? (line ++ ending) = head? line := by
  unfold head?
  rw [Sequence.cutLast?_append_of_forall _ line (Sequence.forall_beq_eq_false_iff.2 plain)]
  cases Sequence.cutLast? (· == '{') line <;> rfl

theorem read_append_of_not_mem (line : Text) {ending : Text} (plain : '{' ∉ ending) :
    read (line ++ ending) = read line := by
  rw [read, read, head?_append_of_not_mem line plain]

/-- Layout before a line stays before its head. -/
theorem read_prepend_of_isAllBlank {layout : Text} (blank : Text.isAllBlank layout = true)
    (line : Text) : read (layout ++ line) = read line := by
  have noBrace : '\x7b' ∉ layout := Text.not_mem_of_isAllBlank blank (by decide)
  have unopened : '(' ∉ layout := Text.not_mem_of_isAllBlank blank (by decide)
  have heads : head? (layout ++ line) = (head? line).map (layout ++ ·) := by
    unfold head?
    rw [Sequence.cutLast?_prepend_of_forall _ (Sequence.forall_beq_eq_false_iff.2 noBrace)]
    cases Sequence.cutLast? (· == '\x7b') line with
    | none => rfl
    | some cut =>
        simp only [Option.map_some]
        rw [Sequence.cutFirst?_prepend_of_forall _ (Sequence.forall_beq_eq_false_iff.2 unopened)]
        cases Sequence.cutFirst? (· == '(') cut.1 <;> rfl
  unfold read
  rw [heads]
  cases head? line with
  | none => rfl
  | some head =>
      change nameOfHead (layout ++ head) = nameOfHead head
      unfold nameOfHead
      rw [Text.trim_prepend_of_isAllBlank blank]

theorem mem_of_read_eq_some {line method : Text} (declares : read line = .ok (some method)) :
    '{' ∈ line := by
  unfold read head? at declares
  cases cut : Sequence.cutLast? (· == '{') line with
  | none =>
      rw [cut] at declares
      exact absurd declares (by simp)
  | some parts =>
      obtain ⟨before, separator, after⟩ := parts
      obtain ⟨shape, hit, -⟩ := (Sequence.cutLast?_eq_some_iff _).1 cut
      rw [shape, ← beq_iff_eq.1 hit]
      simp

theorem isAllBlank_eq_false_of_read {line method : Text}
    (declares : read line = .ok (some method)) : Text.isAllBlank line = false := by
  rw [Bool.eq_false_iff]
  intro blank
  have brace := List.all_eq_true.1 blank _ (mem_of_read_eq_some declares)
  exact absurd brace (by decide)

/-! ## Faults -/

/-- What stands before the first `(` of a line, which comes before its last `{`. -/
def IsHead (line head : Text) : Prop :=
  ∃ parameters body, line = head ++ '(' :: (parameters ++ '\x7b' :: body) ∧
    '(' ∉ head ∧ '\x7b' ∉ body

/-- The last layout character of a text takes more than one byte. -/
def HasWideLastBlank (text : Text) : Prop :=
  ∃ before blank after, text = before ++ blank :: after ∧ Text.isBlank blank = true ∧
    1 < blank.utf8Size ∧ Text.IsSolid after

/-- The name of a line would begin inside a character. -/
def SplitsCharacter (line : Text) : Prop :=
  ∃ head, IsHead line head ∧ HasWideLastBlank (Text.trim head)

theorem head?_eq_some_iff {line head : Text} : head? line = some head ↔ IsHead line head := by
  unfold head?
  constructor
  · intro found
    split at found
    · exact absurd found (by simp)
    · rename_i declaration brace body lastCut
      split at found
      · exact absurd found (by simp)
      · rename_i before parenthesis parameters firstCut
        obtain ⟨shape, hit, noBrace⟩ := (Sequence.cutLast?_eq_some_iff _).1 lastCut
        obtain ⟨declared, opens, unopened⟩ := (Sequence.cutFirst?_eq_some_iff _).1 firstCut
        rw [beq_iff_eq] at hit opens
        subst hit opens
        rw [← Option.some.inj found]
        exact ⟨parameters, body, by rw [shape, declared]; simp,
          Sequence.forall_beq_eq_false_iff.1 unopened, Sequence.forall_beq_eq_false_iff.1 noBrace⟩
  · rintro ⟨parameters, body, shape, unopened, noBrace⟩
    have lastCut : Sequence.cutLast? (· == '\x7b') line =
        some (head ++ '(' :: parameters, '\x7b', body) :=
      (Sequence.cutLast?_eq_some_iff _).2
        ⟨by rw [shape]; simp, rfl, Sequence.forall_beq_eq_false_iff.2 noBrace⟩
    have firstCut : Sequence.cutFirst? (· == '(') (head ++ '(' :: parameters) =
        some (head, '(', parameters) :=
      (Sequence.cutFirst?_eq_some_iff _).2
        ⟨rfl, rfl, Sequence.forall_beq_eq_false_iff.2 unopened⟩
    simp only [lastCut, firstCut]

theorem nameOfHead_eq_error_iff {head : Text} {fault : ScanFault} :
    nameOfHead head = .error fault ↔ HasWideLastBlank (Text.trim head) := by
  unfold nameOfHead
  constructor
  · intro faults
    split at faults
    · exact absurd faults (by simp)
    · rename_i before blank after cut
      obtain ⟨shape, hit, solid⟩ := (Sequence.cutLast?_eq_some_iff _).1 cut
      split at faults
      · rename_i wide
        rw [Text.isWideBlank, Bool.and_eq_true, decide_eq_true_eq] at wide
        exact ⟨before, blank, after, shape, hit, wide.2, solid⟩
      · exact absurd faults (by simp)
  · rintro ⟨before, blank, after, shape, hit, long, solid⟩
    have cut := (Sequence.cutLast?_eq_some_iff Text.isBlank).2 ⟨shape, hit, solid⟩
    have wide : Text.isWideBlank blank = true := by
      rw [Text.isWideBlank, hit, Bool.true_and]
      exact decide_eq_true long
    simp only [cut, wide, if_true]

/-- Reading a signature faults exactly where its name would begin inside a
character. -/
theorem read_eq_error_iff {line : Text} {fault : ScanFault} :
    read line = .error fault ↔ SplitsCharacter line := by
  unfold read SplitsCharacter
  cases cut : head? line with
  | none =>
      constructor
      · intro faults
        exact absurd faults (by simp)
      · rintro ⟨head, isHead, -⟩
        rw [head?_eq_some_iff.2 isHead] at cut
        exact absurd cut (by simp)
  | some head =>
      constructor
      · intro faults
        exact ⟨head, head?_eq_some_iff.1 cut, nameOfHead_eq_error_iff.1 faults⟩
      · rintro ⟨other, isHead, wide⟩
        rw [head?_eq_some_iff.2 isHead] at cut
        rw [← Option.some.inj cut]
        exact nameOfHead_eq_error_iff.2 wide

end BacklogTrace.BraceSignature
