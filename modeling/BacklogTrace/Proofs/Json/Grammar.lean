import BacklogTrace.Json.Reader

/-!
Contract: the grammar of JSON documents.

`IsWritten` says which text stands for which value, and leaves open what the
grammar leaves open: layout between tokens, and which characters of a string are
escaped in which way. Half of a surrogate pair stands for no character, so no
string is written with one. Nothing here mentions a reader or a printer; both are
held against this grammar in `Proofs.Json.Reader` and `Proofs.Json.Printer`.

Owns: `IsNumber`, `IsString`, `Phrase`, `IsWritten`, `IsDocument`.

Does not own: what a reader accepts beyond the grammar.
-/

namespace BacklogTrace.Json

/-! ## Numbers -/

/-- Decimal digits, at least one. -/
structure IsDigits (text : Text) : Prop where
  nonempty : text ≠ []
  digits : ∀ character ∈ text, character.isDigit = true

/-- A zero, or digits that do not begin with one. -/
inductive IsWhole : Text → Prop where
  | zero : IsWhole ['0']
  | digits {digits : Text} (proper : IsDigits digits) (leading : digits.head? ≠ some '0') :
      IsWhole digits

inductive IsFraction : Text → Prop where
  | absent : IsFraction []
  | present {digits : Text} (proper : IsDigits digits) : IsFraction ('.' :: digits)

inductive IsExponent : Text → Prop where
  | absent : IsExponent []
  | present {mark : Char} {sign digits : Text} (marks : mark = 'e' ∨ mark = 'E')
      (signs : sign = [] ∨ sign = ['+'] ∨ sign = ['-']) (proper : IsDigits digits) :
      IsExponent (mark :: (sign ++ digits))

inductive IsNumber : Text → Prop where
  | written {sign whole fraction exponent : Text} (signs : sign = [] ∨ sign = ['-'])
      (units : IsWhole whole) (places : IsFraction fraction) (scale : IsExponent exponent) :
      IsNumber (sign ++ whole ++ fraction ++ exponent)

/-! ## Strings -/

/-- The letters that stand for a character behind a backslash. -/
def shortEscapes : List (Char × Char) :=
  [('"', '"'), ('\\', '\\'), ('/', '/'), ('b', '\x08'), ('f', '\x0c'), ('n', '\n'), ('r', '\r'),
    ('t', '\t')]

/-- A number of four hexadecimal digits. -/
inductive IsUnit : Text → Nat → Prop where
  | digits {first second third fourth : Char} {one two three four : Nat}
      (firstDigit : hexValue? first = some one) (secondDigit : hexValue? second = some two)
      (thirdDigit : hexValue? third = some three) (fourthDigit : hexValue? fourth = some four) :
      IsUnit [first, second, third, fourth] (((one * 16 + two) * 16 + three) * 16 + four)

/-- The ways to write a character of a string. -/
inductive IsCharacter : Char → Text → Prop where
  | plain {character : Char} (noQuote : character ≠ '"') (noBackslash : character ≠ '\\')
      (noControl : 0x20 ≤ character.toNat) : IsCharacter character [character]
  | short {character letter : Char} (known : (letter, character) ∈ shortEscapes) :
      IsCharacter character ['\\', letter]
  | unit {character : Char} {digits : Text} (number : IsUnit digits character.toNat) :
      IsCharacter character ('\\' :: 'u' :: digits)
  | pair {character : Char} {highDigits lowDigits : Text} {high low : Nat}
      (first : IsUnit highDigits high) (second : IsUnit lowDigits low)
      (isHigh : 0xd800 ≤ high ∧ high < 0xdc00) (isLow : 0xdc00 ≤ low ∧ low < 0xe000)
      (number : character.toNat = 0x10000 + (high - 0xd800) * 0x400 + (low - 0xdc00)) :
      IsCharacter character
        ('\\' :: 'u' :: (highDigits ++ '\\' :: 'u' :: lowDigits))

inductive IsContent : Text → Text → Prop where
  | nil : IsContent [] []
  | cons {character : Char} {content first rest : Text} (written : IsCharacter character first)
      (others : IsContent content rest) : IsContent (character :: content) (first ++ rest)

/-- A content between quotes. -/
inductive IsString : Text → Text → Prop where
  | quoted {content written : Text} (inner : IsContent content written) :
      IsString content ('"' :: (written ++ ['"']))

/-! ## Values -/

def IsSpacing (text : Text) : Prop :=
  ∀ character ∈ text, isSpace character = true

/-- What a part of a document stands for. -/
inductive Phrase where
  | value (value : Json)
  /-- A value with layout around it. -/
  | padded (value : Json)
  /-- The elements of an array, at least one. -/
  | elements (elements : List Json)
  | member (key : Text) (value : Json)
  /-- The members of an object, at least one. -/
  | members (members : List (Text × Json))

/-- Which text stands for what. -/
inductive IsWritten : Phrase → Text → Prop where
  | null : IsWritten (.value .null) "null".toList
  | true : IsWritten (.value (.boolean Bool.true)) "true".toList
  | false : IsWritten (.value (.boolean Bool.false)) "false".toList
  | number {literal : Text} (proper : IsNumber literal) :
      IsWritten (.value (.number literal)) literal
  | string {content text : Text} (quoted : IsString content text) :
      IsWritten (.value (.string content)) text
  | emptyArray {space : Text} (spacing : IsSpacing space) :
      IsWritten (.value (.array [])) ('[' :: (space ++ [']']))
  | array {elements : List Json} {text : Text} (inner : IsWritten (.elements elements) text) :
      IsWritten (.value (.array elements)) ('[' :: (text ++ [']']))
  | emptyObject {space : Text} (spacing : IsSpacing space) :
      IsWritten (.value (.object [])) ('{' :: (space ++ ['}']))
  | object {members : List (Text × Json)} {text : Text}
      (inner : IsWritten (.members members) text) :
      IsWritten (.value (.object members)) ('{' :: (text ++ ['}']))
  | padded {value : Json} {before text after : Text} (spaceBefore : IsSpacing before)
      (inner : IsWritten (.value value) text) (spaceAfter : IsSpacing after) :
      IsWritten (.padded value) (before ++ text ++ after)
  | lastElement {value : Json} {text : Text} (last : IsWritten (.padded value) text) :
      IsWritten (.elements [value]) text
  | nextElement {value : Json} {elements : List Json} {text rest : Text}
      (first : IsWritten (.padded value) text) (others : IsWritten (.elements elements) rest) :
      IsWritten (.elements (value :: elements)) (text ++ ',' :: rest)
  | member {key : Text} {value : Json} {before written after text : Text}
      (spaceBefore : IsSpacing before) (quoted : IsString key written)
      (spaceAfter : IsSpacing after) (inner : IsWritten (.padded value) text) :
      IsWritten (.member key value) (before ++ written ++ after ++ ':' :: text)
  | lastMember {key : Text} {value : Json} {text : Text}
      (last : IsWritten (.member key value) text) : IsWritten (.members [(key, value)]) text
  | nextMember {key : Text} {value : Json} {members : List (Text × Json)} {text rest : Text}
      (first : IsWritten (.member key value) text) (others : IsWritten (.members members) rest) :
      IsWritten (.members ((key, value) :: members)) (text ++ ',' :: rest)

/-- A whole text that stands for a value. -/
def IsDocument (text : Text) (value : Json) : Prop :=
  IsWritten (.padded value) text

end BacklogTrace.Json
