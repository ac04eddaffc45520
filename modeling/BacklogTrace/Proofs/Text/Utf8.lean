import BacklogTrace.Proofs.Sequence
import BacklogTrace.Text.Utf8

/-!
Contract: line feeds in bytes are the line feeds of the decoded text, and the bytes
of ASCII in what is written are its characters of ASCII.

A line feed byte is always decoded to a line feed, whatever stands before it.
Here is the other half: no other bytes are. A number built from continuation
bytes is never as small as a line feed, because the machine never stands inside
a character without a leading bit or a raised window. In writing, a character that
takes more than one byte takes none of ASCII.

Owns: `Progress.IsRaised`, text decoded from bytes without line feeds, bytes of
ASCII in written text.

Does not own: lines (`Proofs.Scan.Input`).
-/

namespace BacklogTrace.Utf8

/-- Inside a character, the number read so far is positive, or the next byte has
to make it so. -/
def Progress.IsRaised : Progress → Prop
  | .between => True
  | .inside bits _ window => 0 < bits ∨ 0x90 ≤ window.least

theorem isRaised_stepLead (number : Nat) : (stepLead number).2.IsRaised := by
  have windows : Window.fromA0.least = 0xa0 ∧ Window.from90.least = 0x90 := ⟨rfl, rfl⟩
  unfold stepLead
  split
  · trivial
  · split
    · trivial
    · split
      · exact Or.inl (by omega)
      · split
        · by_cases least : number = 0xe0
          · exact Or.inr (by rw [if_pos least]; omega)
          · exact Or.inl (by omega)
        · split
          · by_cases least : number = 0xf0
            · exact Or.inr (by rw [if_pos least]; omega)
            · exact Or.inl (by omega)
          · trivial

/-- A continuation byte raises the number beyond every control character. -/
theorem extended_of_isRaised {bits owed number : Nat} {window : Window}
    (raised : (Progress.inside bits owed window).IsRaised)
    (admitted : window.admits number = true) : 0x10 ≤ bits * 0x40 + (number - 0x80) := by
  change 0 < bits ∨ 0x90 ≤ window.least at raised
  simp only [Window.admits, Bool.and_eq_true, decide_eq_true_eq] at admitted
  omega

theorem isRaised_step {progress : Progress} (raised : progress.IsRaised) (byte : UInt8) :
    (step progress byte).2.IsRaised := by
  cases progress with
  | between => exact isRaised_stepLead byte.toNat
  | inside bits owed window =>
      simp only [step, stepInside]
      split
      · rename_i admitted
        have extended := extended_of_isRaised raised admitted
        cases owed with
        | zero => trivial
        | succ rest => exact Or.inl (by omega)
      · exact isRaised_stepLead byte.toNat

theorem ofNat_ne_lineFeed {number : Nat} (other : number ≠ 0x0a) : Char.ofNat number ≠ '\n' := by
  intro lineFeed
  by_cases valid : number.isValidChar
  · rw [Char.ofNat, dif_pos valid] at lineFeed
    exact other (congrArg Char.toNat lineFeed)
  · rw [Char.ofNat, dif_neg valid] at lineFeed
    exact absurd lineFeed (by decide)

theorem lineFeed_not_mem_stepLead {number : Nat} (other : number ≠ 0x0a) :
    '\n' ∉ (stepLead number).1 := by
  have notReplacement : '\n' ∉ [replacement] := by decide
  unfold stepLead
  split
  · rw [List.mem_singleton]
    exact (ofNat_ne_lineFeed other).symm
  · split
    · exact notReplacement
    · split
      · exact List.not_mem_nil
      · split
        · exact List.not_mem_nil
        · split
          · exact List.not_mem_nil
          · exact notReplacement

theorem lineFeed_not_mem_step {progress : Progress} (raised : progress.IsRaised) {byte : UInt8}
    (other : byte ≠ 0x0a) : '\n' ∉ (step progress byte).1 := by
  have otherNumber : byte.toNat ≠ 0x0a := fun same => other (UInt8.toNat_inj.1 same)
  cases progress with
  | between => exact lineFeed_not_mem_stepLead otherNumber
  | inside bits owed window =>
      simp only [step, stepInside]
      split
      · rename_i admitted
        have extended := extended_of_isRaised raised admitted
        cases owed with
        | zero =>
            rw [List.mem_singleton]
            exact (ofNat_ne_lineFeed (by omega)).symm
        | succ rest => exact List.not_mem_nil
      · rw [List.mem_cons, not_or]
        exact ⟨by decide, lineFeed_not_mem_stepLead otherNumber⟩

theorem lineFeed_not_mem_decodeFrom {progress : Progress} (raised : progress.IsRaised)
    {bytes : Bytes} (unbroken : 0x0a ∉ bytes) : '\n' ∉ decodeFrom progress bytes := by
  induction bytes generalizing progress with
  | nil =>
      cases progress with
      | between => exact List.not_mem_nil
      | inside => exact (by decide : '\n' ∉ [replacement])
  | cons byte rest inductionHypothesis =>
      rw [List.mem_cons, not_or] at unbroken
      rw [decodeFrom, List.mem_append, not_or]
      exact ⟨lineFeed_not_mem_step raised (Ne.symm unbroken.1),
        inductionHypothesis (isRaised_step raised byte) unbroken.2⟩

/-- Bytes of one line are decoded to text of one line. -/
theorem lineFeed_not_mem_decode {bytes : Bytes} (unbroken : 0x0a ∉ bytes) :
    '\n' ∉ decode bytes :=
  lineFeed_not_mem_decodeFrom (show Progress.between.IsRaised from trivial) unbroken

theorem decode_append_lineFeed (before after : Bytes) :
    decode (before ++ 0x0a :: after) = decode before ++ '\n' :: decode after :=
  decodeFrom_append_lineFeed .between before after

/-! ## Written text -/

theorem encode_injective : Function.Injective encode :=
  Function.LeftInverse.injective decode_encode

/-- A byte of ASCII stands in the bytes of a text only for the character that it
writes. -/
theorem mem_of_mem_encode {byte : UInt8} (ascii : byte.toNat < 0x80) {text : Text}
    (member : byte ∈ encode text) : Char.ofNat byte.toNat ∈ text := by
  obtain ⟨character, inText, written⟩ := List.mem_flatMap.1 member
  suffices same : character.val.toNat = byte.toNat by
    have back : Char.ofNat character.val.toNat = character := Char.ofNat_toNat character
    rw [← same, back]
    exact inText
  -- all bytes of a character that takes more than one are beyond ASCII
  have beyond : ∀ number, 0x80 ≤ number → number < 256 → byte ≠ UInt8.ofNat number := by
    intro number least small same
    rw [same, UInt8.toNat_ofNat', Nat.mod_eq_of_lt small] at ascii
    omega
  unfold String.utf8EncodeChar at written
  dsimp only at written
  split at written
  · rw [List.mem_singleton.1 written, UInt8.toNat_ofNat', Nat.mod_eq_of_lt (by omega)]
  · split at written
    · simp only [List.mem_cons, List.not_mem_nil, or_false] at written
      rcases written with here | here <;>
        exact absurd here (beyond _ (by omega) (by omega))
    · split at written
      · simp only [List.mem_cons, List.not_mem_nil, or_false] at written
        rcases written with here | here | here <;>
          exact absurd here (beyond _ (by omega) (by omega))
      · simp only [List.mem_cons, List.not_mem_nil, or_false] at written
        rcases written with here | here | here | here <;>
          exact absurd here (beyond _ (by omega) (by omega))

end BacklogTrace.Utf8
