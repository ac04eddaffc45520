/-!
Contract: the characters with the Unicode property White_Space.

Layout in this project means exactly these twenty-five characters: they are
trimmed from lines, they separate words, and a line made of them alone is
blank. `isBlank_eq_true_iff` reads the test as membership in the table.

Owns: `isBlank`, `isWideBlank`.

Does not own: the spaces of JSON, which are four ASCII characters.
-/

namespace BacklogTrace.Text

/-- Every character with the property White_Space, in code point order. -/
def blankCharacters : List Char :=
  ['\t', '\n', '\x0b', '\x0c', '\r', ' ', '\u0085', '\u00a0', '\u1680',
   '\u2000', '\u2001', '\u2002', '\u2003', '\u2004', '\u2005', '\u2006',
   '\u2007', '\u2008', '\u2009', '\u200a', '\u2028', '\u2029', '\u202f',
   '\u205f', '\u3000']

def isBlank (character : Char) : Bool :=
  blankCharacters.contains character

theorem isBlank_eq_true_iff {character : Char} :
    isBlank character = true ↔ character ∈ blankCharacters := by
  simp [isBlank]

/-- A blank that UTF-8 writes with more than one byte. -/
def isWideBlank (character : Char) : Bool :=
  isBlank character && decide (1 < character.utf8Size)

end BacklogTrace.Text
