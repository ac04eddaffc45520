import Mathlib.Data.List.DropRight
import BacklogTrace.Proofs.Json.Grammar

/-!
Contract: the reader takes each document for the value that it stands for.

Numbers and strings are read part by part; what follows a number must not look like
more of it, which holds of layout, of a comma and of closing brackets. For values,
one induction over the grammar says what is read of each kind of phrase. Each
bracket and each comma costs two steps of the reader at most, so that twice the
length of a phrase bounds the depth of its reading.

A document therefore stands for one value only, whatever its layout and its escapes.

Owns: `read?_of_isDocument`, `IsDocument.unique`.

Does not own: texts that are no documents, some of which are read too.
-/

namespace BacklogTrace.Json

/-! ## Layout -/

theorem skipSpace_append {space : Text} (spacing : IsSpacing space) (text : Text) :
    skipSpace (space ++ text) = skipSpace text :=
  List.dropWhile_append_of_pos spacing

theorem skipSpace_cons {head : Char} (solid : isSpace head = false) (tail : Text) :
    skipSpace (head :: tail) = head :: tail := by
  rw [skipSpace, List.dropWhile_cons_of_neg (by simp [solid])]

theorem readValue_skipSpace (bound : Nat) (text : Text) :
    readValue bound (skipSpace text) = readValue bound text := by
  have again : skipSpace (skipSpace text) = skipSpace text := List.dropWhile_idempotent _ text
  cases bound with
  | zero => rfl
  | succ bound => rw [readValue, readValue, again]

/-! ## Numbers -/

/-- The first character of a text, if any, is not one of these. -/
def NoneBegins (stops : Char → Bool) (text : Text) : Prop :=
  ∀ character, text.head? = some character → stops character = false

/-- The characters that go on with a number. -/
def isNumeric (character : Char) : Bool :=
  character.isDigit || ['.', 'e', 'E'].contains character

theorem NoneBegins.cons {stops : Char → Bool} {head : Char} (clear : stops head = false)
    (tail : Text) : NoneBegins stops (head :: tail) := by
  intro character first
  rwa [← Option.some.inj first]

theorem NoneBegins.append {stops : Char → Bool} {front rest : Text}
    (clear : ∀ character ∈ front, stops character = false) (ends : NoneBegins stops rest) :
    NoneBegins stops (front ++ rest) := by
  cases front with
  | nil => exact ends
  | cons head tail => exact .cons (clear head List.mem_cons_self) (tail ++ rest)

theorem NoneBegins.mono {stops fewer : Char → Bool} {text : Text} (ends : NoneBegins stops text)
    (included : ∀ character, fewer character = true → stops character = true) :
    NoneBegins fewer text := by
  intro character first
  rw [Bool.eq_false_iff]
  intro hit
  have none := ends character first
  rw [included character hit] at none
  exact absurd none (by decide)

theorem IsSpacing.noneBegins {space rest : Text} (spacing : IsSpacing space)
    (ends : NoneBegins isNumeric rest) : NoneBegins isNumeric (space ++ rest) := by
  refine .append (fun character member => ?_) ends
  have space := spacing character member
  simp only [isSpace, Bool.or_eq_true, beq_iff_eq] at space
  rcases space with ((rfl | rfl) | rfl) | rfl <;> decide

theorem readDigits_append {digits rest : Text} (proper : IsDigits digits)
    (ends : NoneBegins Char.isDigit rest) : readDigits (digits ++ rest) = some (digits, rest) := by
  have ended : rest.takeWhile Char.isDigit = [] ∧ rest.dropWhile Char.isDigit = rest := by
    cases rest with
    | nil => exact ⟨rfl, rfl⟩
    | cons head tail =>
        have other := ends head rfl
        exact ⟨by simp [other], by simp [other]⟩
  rw [readDigits, List.takeWhile_append_of_pos proper.digits,
    List.dropWhile_append_of_pos proper.digits, ended.1, ended.2, List.append_nil, if_neg]
  rw [List.isEmpty_iff]
  exact proper.nonempty

theorem readWhole_append {whole rest : Text} (units : IsWhole whole)
    (ends : NoneBegins Char.isDigit rest) : readWhole (whole ++ rest) = some (whole, rest) := by
  cases units with
  | zero => rfl
  | digits proper leading =>
      rw [← readDigits_append proper ends, readWhole]
      intro after shape
      obtain ⟨first, others, rfl⟩ := List.exists_cons_of_ne_nil proper.nonempty
      rw [(List.cons.inj shape).1] at leading
      exact leading rfl

theorem readFraction_append {fraction rest : Text} (places : IsFraction fraction)
    (ends : NoneBegins (fun character => character.isDigit || character == '.') rest) :
    readFraction (fraction ++ rest) = some (fraction, rest) := by
  cases places with
  | absent =>
      rw [List.nil_append, readFraction]
      rintro after rfl
      exact absurd (ends '.' rfl) (by decide)
  | present proper =>
      have digitsEnd : NoneBegins Char.isDigit rest := ends.mono (by simp +contextual)
      rw [List.cons_append, readFraction, readDigits_append proper digitsEnd]
      rfl

theorem readSign_append {signs : List Char} {sign rest : Text}
    (signed : sign = [] ∨ ∃ character ∈ signs, sign = [character])
    (unsigned : NoneBegins signs.contains rest) : readSign signs (sign ++ rest) = (sign, rest) := by
  rcases signed with rfl | ⟨character, known, rfl⟩
  · cases rest with
    | nil => rfl
    | cons head tail =>
        have other := unsigned head rfl
        rw [List.nil_append, readSign, if_neg (Bool.eq_false_iff.1 other)]
  · rw [List.cons_append, readSign, if_pos (List.contains_iff_mem.2 known)]
    rfl

/-- Digits begin with no sign. -/
theorem IsDigits.noneBegins {digits : Text} (proper : IsDigits digits) {signs : List Char}
    (others : signs.any Char.isDigit = false) (rest : Text) :
    NoneBegins signs.contains (digits ++ rest) := by
  obtain ⟨first, tail, rfl⟩ := List.exists_cons_of_ne_nil proper.nonempty
  refine .cons ?_ (tail ++ rest)
  rw [Bool.eq_false_iff]
  intro member
  have digit := proper.digits first List.mem_cons_self
  rw [List.any_eq_true.2 ⟨first, List.contains_iff_mem.1 member, digit⟩] at others
  exact absurd others (by decide)

theorem readExponent_append {exponent rest : Text} (scale : IsExponent exponent)
    (ends : NoneBegins isNumeric rest) :
    readExponent (exponent ++ rest) = some (exponent, rest) := by
  cases scale with
  | absent =>
      cases rest with
      | nil => rfl
      | cons head tail =>
          have other := ends head rfl
          rw [List.nil_append, readExponent, if_neg]
          rintro (rfl | rfl)
          · exact absurd other (by decide)
          · exact absurd other (by decide)
  | @present mark sign digits marks signs proper =>
      have digitsEnd : NoneBegins Char.isDigit rest := ends.mono (by simp +contextual [isNumeric])
      have signed : sign = [] ∨ ∃ character ∈ ['+', '-'], sign = [character] := by simpa using signs
      have signRead := readSign_append signed (proper.noneBegins (by decide) rest)
      simp only [List.cons_append, readExponent, if_pos marks, List.append_assoc, signRead,
        readDigits_append proper digitsEnd, Option.map_some]

theorem IsExponent.noneBegins {exponent rest : Text} (scale : IsExponent exponent)
    (ends : NoneBegins isNumeric rest) :
    NoneBegins (fun character => character.isDigit || character == '.') (exponent ++ rest) := by
  cases scale with
  | absent =>
      refine ends.mono fun character point => ?_
      simp only [Bool.or_eq_true, beq_iff_eq] at point
      rcases point with digit | rfl
      · simp [isNumeric, digit]
      · decide
  | present marks signs proper =>
      rcases marks with rfl | rfl
      · exact .cons (by decide) _
      · exact .cons (by decide) _

theorem IsFraction.noneBegins {fraction rest : Text} (places : IsFraction fraction)
    (ends : NoneBegins (fun character => character.isDigit || character == '.') rest) :
    NoneBegins Char.isDigit (fraction ++ rest) := by
  cases places with
  | absent => exact ends.mono (by simp +contextual)
  | present proper => exact .cons (by decide) _

theorem readNumber_append {literal rest : Text} (proper : IsNumber literal)
    (ends : NoneBegins isNumeric rest) : readNumber (literal ++ rest) = some (literal, rest) := by
  obtain @⟨sign, whole, fraction, exponent, signs, units, places, scale⟩ := proper
  have afterFraction := scale.noneBegins ends
  have afterWhole := places.noneBegins afterFraction
  have signed : sign = [] ∨ ∃ character ∈ ['-'], sign = [character] := by simpa using signs
  have unsigned : NoneBegins ['-'].contains (whole ++ (fraction ++ (exponent ++ rest))) := by
    cases units with
    | zero => exact .cons (by decide) _
    | digits proper leading => exact proper.noneBegins (by decide) _
  simp only [List.append_assoc, readNumber, readSign_append signed unsigned,
    readWhole_append units afterWhole, readFraction_append places afterFraction,
    readExponent_append scale ends]

/-! ## Strings -/

/-- A step that reads no character of the content yet. -/
theorem readString_of_quiet {progress next : StringProgress} {character : Char}
    (inside : progress ≠ .plain ∨ character ≠ '"')
    (step : stepString progress character = some ([], next)) (rest : Text) :
    readString progress (character :: rest) = readString next rest := by
  rw [readString, if_neg (by tauto), step]
  simp only [List.nil_append]
  cases readString next rest <;> rfl

/-- A step that ends the reading of a character. -/
theorem readString_of_read {progress : StringProgress} {character read : Char}
    (inside : progress ≠ .plain ∨ character ≠ '"')
    (step : stepString progress character = some ([read], .plain)) (rest : Text) :
    readString progress (character :: rest) =
      (readString .plain rest).map fun parts => (read :: parts.1, parts.2) := by
  rw [readString, if_neg (by tauto), step]
  simp only [List.singleton_append]
  cases readString .plain rest <;> rfl

/-- A progress that only counts digits, and their value, until the last one is read. -/
structure IsCounting (counting : Nat → Nat → StringProgress) : Prop where
  inside : ∀ missing value, counting missing value ≠ .plain
  step : ∀ {character digit}, hexValue? character = some digit → ∀ missing value,
    stepString (counting (missing + 1) value) character =
      some ([], counting missing (value * 16 + digit))

theorem isCounting_number : IsCounting .number where
  inside missing value := by simp
  step known missing value := by simp [stepString, known]

theorem isCounting_secondNumber (high : Nat) : IsCounting (.secondNumber high) where
  inside missing value := by simp
  step known missing value := by simp [stepString, known]

/-- The last digit of a unit decides where it takes the reader. -/
theorem readString_unit {counting : Nat → Nat → StringProgress} (counts : IsCounting counting)
    {digits : Text} {value : Nat} (number : IsUnit digits value) :
    ∃ last digit before, hexValue? last = some digit ∧ value = before * 16 + digit ∧
      ∀ rest, readString (counting 3 0) (digits ++ rest) =
        readString (counting 0 before) (last :: rest) := by
  obtain @⟨first, second, third, fourth, one, two, three, four, firstDigit, secondDigit, thirdDigit,
    fourthDigit⟩ := number
  refine ⟨fourth, four, (one * 16 + two) * 16 + three, fourthDigit, rfl, fun rest => ?_⟩
  have start : stepString (counting 3 0) first = some ([], counting 2 one) := by
    rw [counts.step firstDigit, Nat.zero_mul, Nat.zero_add]
  exact (readString_of_quiet (.inl (counts.inside _ _)) start _).trans
    ((readString_of_quiet (.inl (counts.inside _ _)) (counts.step secondDigit _ _) _).trans
      (readString_of_quiet (.inl (counts.inside _ _)) (counts.step thirdDigit _ _) _))

/-- No character is half of a surrogate pair. -/
theorem closeNumber_toNat (character : Char) :
    closeNumber character.toNat = some ([character], .plain) := by
  have valid : character.toNat < 0xd800 ∨ 0xdfff < character.toNat := by
    rcases character.valid with low | high
    · exact Or.inl low
    · exact Or.inr high.1
  have notHigh : isHighHalf character.toNat = false := by
    simp only [isHighHalf, Bool.and_eq_false_iff, decide_eq_false_iff_not]
    omega
  have notLow : isLowHalf character.toNat = false := by
    simp only [isLowHalf, Bool.and_eq_false_iff, decide_eq_false_iff_not]
    omega
  rw [closeNumber, notHigh, notLow, Char.ofNat_toNat]
  rfl

theorem readString_character {character : Char} {written : Text}
    (spelled : IsCharacter character written) (rest : Text) :
    readString .plain (written ++ rest) =
      (readString .plain rest).map fun parts => (character :: parts.1, parts.2) := by
  have escapes : stepString .plain '\\' = some ([], .escaped) := by decide
  have units : stepString .escaped 'u' = some ([], .number 3 0) := by decide
  cases spelled with
  | plain noQuote noBackslash noControl =>
      refine readString_of_read (.inr noQuote) ?_ rest
      rw [stepString, if_neg noBackslash]
  | @short letter known =>
      have step : stepString .escaped letter = some ([character], .plain) := by
        simp only [shortEscapes, List.mem_cons, List.not_mem_nil, or_false, Prod.mk.injEq] at known
        rcases known with ⟨rfl, rfl⟩ | ⟨rfl, rfl⟩ | ⟨rfl, rfl⟩ | ⟨rfl, rfl⟩ | ⟨rfl, rfl⟩ |
          ⟨rfl, rfl⟩ | ⟨rfl, rfl⟩ | ⟨rfl, rfl⟩ <;> decide
      exact (readString_of_quiet (.inr (by decide)) escapes _).trans
        (readString_of_read (.inl (by decide)) step rest)
  | @unit digits number =>
      obtain ⟨last, digit, before, known, value, read⟩ := readString_unit isCounting_number number
      have step : stepString (.number 0 before) last = some ([character], .plain) := by
        simp only [stepString, known, ← value, closeNumber_toNat]
      calc
        readString .plain ('\\' :: 'u' :: (digits ++ rest)) =
            readString .escaped ('u' :: (digits ++ rest)) :=
          readString_of_quiet (.inr (by decide)) escapes _
        _ = readString (.number 3 0) (digits ++ rest) :=
          readString_of_quiet (.inl (by decide)) units _
        _ = readString (.number 0 before) (last :: rest) := read rest
        _ = _ := readString_of_read (.inl (by simp)) step rest
  | @pair highDigits lowDigits high low first second isHigh isLow number =>
      obtain ⟨last, digit, before, known, value, read⟩ := readString_unit isCounting_number first
      obtain ⟨lowLast, lowDigit, lowBefore, lowKnown, lowValue, lowRead⟩ :=
        readString_unit (isCounting_secondNumber high) second
      have half : stepString (.number 0 before) last = some ([], .halved high) := by
        simp [stepString, known, ← value, closeNumber, isHighHalf, isHigh]
      have again : stepString (.halved high) '\\' = some ([], .halvedEscaped high) := by
        simp [stepString]
      have unitsAgain : stepString (.halvedEscaped high) 'u' =
          some ([], .secondNumber high 3 0) := by
        simp [stepString]
      have step : stepString (.secondNumber high 0 lowBefore) lowLast =
          some ([character], .plain) := by
        simp [stepString, lowKnown, ← lowValue, closeSecondNumber, isLowHalf, isLow, ← number,
          Char.ofNat_toNat]
      calc
        readString .plain ('\\' :: 'u' :: (highDigits ++ '\\' :: 'u' :: lowDigits) ++ rest) =
            readString .escaped ('u' :: (highDigits ++ '\\' :: 'u' :: lowDigits) ++ rest) :=
          readString_of_quiet (.inr (by decide)) escapes _
        _ = readString (.number 3 0) (highDigits ++ '\\' :: 'u' :: lowDigits ++ rest) :=
          readString_of_quiet (.inl (by decide)) units _
        _ = readString (.number 0 before) (last :: '\\' :: 'u' :: (lowDigits ++ rest)) := by
          rw [List.append_assoc]
          exact read _
        _ = readString (.halved high) ('\\' :: 'u' :: (lowDigits ++ rest)) :=
          readString_of_quiet (.inl (by simp)) half _
        _ = readString (.halvedEscaped high) ('u' :: (lowDigits ++ rest)) :=
          readString_of_quiet (.inl (by simp)) again _
        _ = readString (.secondNumber high 3 0) (lowDigits ++ rest) :=
          readString_of_quiet (.inl (by simp)) unitsAgain _
        _ = readString (.secondNumber high 0 lowBefore) (lowLast :: rest) := lowRead rest
        _ = _ := readString_of_read (.inl (by simp)) step rest

/-- The content of a string is read up to its closing quote. -/
theorem readString_content {content written : Text} (inner : IsContent content written)
    (rest : Text) : readString .plain (written ++ '"' :: rest) = some (content, rest) := by
  induction inner with
  | nil => rw [List.nil_append, readString, if_pos ⟨rfl, rfl⟩]
  | cons spelled others inductionHypothesis =>
      rw [List.append_assoc, readString_character spelled, inductionHypothesis]
      rfl

theorem readKey_append {key quoted after : Text} (spelled : IsString key quoted)
    (spacing : IsSpacing after) (rest : Text) :
    readKey (quoted ++ (after ++ ':' :: rest)) = some (key, rest) := by
  obtain ⟨inner⟩ := spelled
  rw [List.cons_append, List.append_assoc, List.singleton_append, readKey, readString_content inner]
  simp only [skipSpace_append spacing, skipSpace_cons (show isSpace ':' = false by decide)]

/-! ## Values -/

/-- The characters that a value begins with. -/
def isBeginning (character : Char) : Bool :=
  character.isDigit || ['-', '"', '[', '{', 'n', 't', 'f'].contains character

theorem IsNumber.exists_cons {literal : Text} (proper : IsNumber literal) :
    ∃ head tail, literal = head :: tail ∧ (head.isDigit || head == '-') = true := by
  obtain ⟨signs, units, places, scale⟩ := proper
  rcases signs with rfl | rfl
  · cases units with
    | zero => exact ⟨'0', _, rfl, by decide⟩
    | digits proper leading =>
        obtain ⟨first, others, rfl⟩ := List.exists_cons_of_ne_nil proper.nonempty
        exact ⟨first, _, rfl, by simp [proper.digits first List.mem_cons_self]⟩
  · exact ⟨'-', _, rfl, by decide⟩

theorem isBeginning_of_number {head : Char} (begins : (head.isDigit || head == '-') = true) :
    isBeginning head = true := by
  rw [Bool.or_eq_true, beq_iff_eq] at begins
  rcases begins with digit | rfl
  · rw [isBeginning, digit, Bool.true_or]
  · decide

theorem exists_cons_of_isWritten {value : Json} {text : Text}
    (written : IsWritten (.value value) text) :
    ∃ head tail, text = head :: tail ∧ isBeginning head = true := by
  cases written with
  | null => exact ⟨_, _, rfl, by decide⟩
  | true => exact ⟨_, _, rfl, by decide⟩
  | false => exact ⟨_, _, rfl, by decide⟩
  | number proper =>
      obtain ⟨head, tail, shape, begins⟩ := proper.exists_cons
      exact ⟨head, tail, shape, isBeginning_of_number begins⟩
  | string quoted =>
      obtain ⟨inner⟩ := quoted
      exact ⟨_, _, rfl, by decide⟩
  | emptyArray spacing => exact ⟨_, _, rfl, by decide⟩
  | array inner => exact ⟨_, _, rfl, by decide⟩
  | emptyObject spacing => exact ⟨_, _, rfl, by decide⟩
  | object inner => exact ⟨_, _, rfl, by decide⟩

theorem ne_of_isBeginning {head other : Char} (begins : isBeginning head = true)
    (foreign : isBeginning other = false) : head ≠ other := by
  rintro rfl
  rw [foreign] at begins
  exact absurd begins (by decide)

theorem not_isSpace_of_isBeginning {head : Char} (begins : isBeginning head = true) :
    isSpace head = false := by
  simp only [isSpace, Bool.or_eq_false_iff, beq_eq_false_iff_ne]
  exact ⟨⟨⟨ne_of_isBeginning begins (by decide), ne_of_isBeginning begins (by decide)⟩,
    ne_of_isBeginning begins (by decide)⟩, ne_of_isBeginning begins (by decide)⟩

/-- The first token of a padded value is that of the value. -/
theorem exists_skipSpace_of_isWritten {value : Json} {text : Text}
    (written : IsWritten (.padded value) text) :
    ∃ head tail, isBeginning head = true ∧ ∀ rest, skipSpace (text ++ rest) = head :: (tail ++ rest) := by
  cases written with
  | @padded _ before text after spaceBefore inner spaceAfter =>
      obtain ⟨head, tail, rfl, begins⟩ := exists_cons_of_isWritten inner
      refine ⟨head, tail ++ after, begins, fun rest => ?_⟩
      rw [List.append_assoc, List.append_assoc, skipSpace_append spaceBefore, List.cons_append,
        skipSpace_cons (not_isSpace_of_isBeginning begins), List.append_assoc]

theorem readScalar_of_isNumber {literal rest : Text} (proper : IsNumber literal)
    (ends : NoneBegins isNumeric rest) :
    readScalar (literal ++ rest) = some (.number literal, rest) := by
  obtain ⟨head, tail, shape, begins⟩ := proper.exists_cons
  have noWord : ∀ word : Text, (word.any fun letter => letter.isDigit || letter == '-') = false →
      word ≠ [] → word.isPrefixOf? (literal ++ rest) = none := by
    intro word letters nonempty
    obtain ⟨first, others, rfl⟩ := List.exists_cons_of_ne_nil nonempty
    have apart : first ≠ head := by
      rintro rfl
      rw [List.any_cons, begins] at letters
      exact absurd letters (by simp)
    rw [shape, List.cons_append, List.isPrefixOf?, if_neg (by simpa using apart)]
  rw [readScalar, noWord _ (by decide) (by decide)]
  simp only
  rw [noWord _ (by decide) (by decide)]
  simp only
  rw [noWord _ (by decide) (by decide)]
  simp only [readNumber_append proper ends]

/-- What the reader makes of a phrase, given a bound of twice its length. -/
def Phrase.IsRead : Phrase → Text → Prop
  | .value read, text =>
      ∀ bound rest, NoneBegins isNumeric rest → 2 * text.length ≤ bound →
        readValue bound (text ++ rest) = some (read, rest)
  | .padded read, text =>
      ∀ bound rest, NoneBegins isNumeric rest → 2 * text.length ≤ bound →
        ∃ space, IsSpacing space ∧ readValue bound (text ++ rest) = some (read, space ++ rest)
  | .elements read, text =>
      ∀ bound rest, 2 * text.length < bound →
        readElements bound (text ++ ']' :: rest) = some (read, rest)
  | .member key read, text =>
      ∀ bound rest, NoneBegins isNumeric rest → 2 * text.length ≤ bound →
        ∃ tail afterKey space, IsSpacing space ∧ skipSpace (text ++ rest) = '"' :: tail ∧
          readKey ('"' :: tail) = some (key, afterKey) ∧
          readValue bound afterKey = some (read, space ++ rest)
  | .members read, text =>
      ∀ bound rest, 2 * text.length < bound →
        readMembers bound (text ++ '}' :: rest) = some (read, rest)

/-! ### Steps of the reader -/

/-- What begins like no string, array or object is read as one word. -/
theorem isRead_scalar {value : Json} {head : Char} {tail : Text} (solid : isSpace head = false)
    (other : head ∉ ['{', '[', '"'])
    (read : ∀ rest, NoneBegins isNumeric rest →
      readScalar (head :: (tail ++ rest)) = some (value, rest)) :
    Phrase.IsRead (.value value) (head :: tail) := by
  intro bound rest ends enough
  simp only [List.mem_cons, List.not_mem_nil, or_false, not_or] at other
  cases bound with
  | zero => exact absurd enough (by simp)
  | succ bound =>
      rw [List.cons_append, readValue, skipSpace_cons solid]
      split
      · rename_i shape
        exact absurd (List.cons.inj shape).1 other.1
      · rename_i shape
        exact absurd (List.cons.inj shape).1 other.2.1
      · rename_i shape
        exact absurd (List.cons.inj shape).1 other.2.2
      · exact read rest ends

theorem readValue_brackets (bound : Nat) (text rest : Text) :
    readValue (bound + 1) ('[' :: (text ++ [']']) ++ rest) =
      (readElements bound (text ++ ']' :: rest)).map fun parts => (.array parts.1, parts.2) := by
  rw [List.cons_append, List.append_assoc, List.singleton_append, readValue,
    skipSpace_cons (by decide)]
  rfl

theorem readValue_braces (bound : Nat) (text rest : Text) :
    readValue (bound + 1) ('{' :: (text ++ ['}']) ++ rest) =
      (readMembers bound (text ++ '}' :: rest)).map fun parts => (.object parts.1, parts.2) := by
  rw [List.cons_append, List.append_assoc, List.singleton_append, readValue,
    skipSpace_cons (by decide)]
  rfl

section Elements

variable {bound : Nat} {text rest : Text} {head : Char} {tail : Text} {element : Json}

theorem readElements_last {after : Text} (begins : skipSpace text = head :: tail)
    (inside : head ≠ ']') (read : readValue bound text = some (element, rest))
    (closes : skipSpace rest = ']' :: after) :
    readElements (bound + 1) text = some ([element], after) := by
  rw [readElements]
  split
  · rename_i shape
    rw [begins] at shape
    exact absurd (List.cons.inj shape).1 inside
  · simp only [readValue_skipSpace, read, closes]

theorem readElements_next {others after : Text} {elements : List Json}
    (begins : skipSpace text = head :: tail) (inside : head ≠ ']')
    (read : readValue bound text = some (element, rest))
    (continues : skipSpace rest = ',' :: others)
    (readOthers : readElements bound others = some (elements, after)) :
    readElements (bound + 1) text = some (element :: elements, after) := by
  rw [readElements]
  split
  · rename_i shape
    rw [begins] at shape
    exact absurd (List.cons.inj shape).1 inside
  · simp only [readValue_skipSpace, read, continues, readOthers, Option.map_some]

end Elements

section Members

variable {bound : Nat} {text tail afterKey rest key : Text} {value : Json}

theorem readMembers_last {after : Text} (begins : skipSpace text = '"' :: tail)
    (readsKey : readKey ('"' :: tail) = some (key, afterKey))
    (read : readValue bound afterKey = some (value, rest))
    (closes : skipSpace rest = '}' :: after) :
    readMembers (bound + 1) text = some ([(key, value)], after) := by
  rw [readMembers]
  split
  · rename_i shape
    rw [begins] at shape
    exact absurd (List.cons.inj shape).1 (by decide)
  · simp only [begins, readsKey, read, closes]

theorem readMembers_next {others after : Text} {members : List (Text × Json)}
    (begins : skipSpace text = '"' :: tail)
    (readsKey : readKey ('"' :: tail) = some (key, afterKey))
    (read : readValue bound afterKey = some (value, rest))
    (continues : skipSpace rest = ',' :: others)
    (readOthers : readMembers bound others = some (members, after)) :
    readMembers (bound + 1) text = some ((key, value) :: members, after) := by
  rw [readMembers]
  split
  · rename_i shape
    rw [begins] at shape
    exact absurd (List.cons.inj shape).1 (by decide)
  · simp only [begins, readsKey, read, continues, readOthers, Option.map_some]

end Members

/-! ### Phrases -/

theorem skipSpace_append_cons {space : Text} (spacing : IsSpacing space) {head : Char}
    (solid : isSpace head = false) (tail : Text) :
    skipSpace (space ++ head :: tail) = head :: tail := by
  rw [skipSpace_append spacing, skipSpace_cons solid]

theorem isRead_of_isWritten {phrase : Phrase} {text : Text} (written : IsWritten phrase text) :
    phrase.IsRead text := by
  induction written with
  | null => exact isRead_scalar (by decide) (by decide) fun rest ends => rfl
  | true => exact isRead_scalar (by decide) (by decide) fun rest ends => rfl
  | false => exact isRead_scalar (by decide) (by decide) fun rest ends => rfl
  | number proper =>
      obtain ⟨head, tail, rfl, begins⟩ := proper.exists_cons
      have solid := not_isSpace_of_isBeginning (isBeginning_of_number begins)
      have other : head ∉ ['{', '[', '"'] := by
        intro member
        simp only [List.mem_cons, List.not_mem_nil, or_false] at member
        rcases member with rfl | rfl | rfl <;> revert begins <;> decide
      exact isRead_scalar solid other fun rest ends => readScalar_of_isNumber proper ends
  | string quoted =>
      obtain ⟨inner⟩ := quoted
      intro bound rest ends enough
      cases bound with
      | zero => exact absurd enough (by simp)
      | succ bound =>
          rw [List.cons_append, List.append_assoc, readValue, skipSpace_cons (by decide)]
          simp only [List.singleton_append, readString_content inner, Option.map_some]
  | emptyArray spacing =>
      intro bound rest ends enough
      simp only [List.length_cons, List.length_append, List.length_nil] at enough
      obtain ⟨bound, rfl⟩ : ∃ smaller, bound = smaller + 2 := ⟨bound - 2, by omega⟩
      have closes := skipSpace_append_cons spacing (show isSpace ']' = false by decide) rest
      rw [readValue_brackets, readElements, closes]
      rfl
  | array inner inductionHypothesis =>
      intro bound rest ends enough
      simp only [List.length_cons, List.length_append, List.length_nil] at enough
      obtain ⟨bound, rfl⟩ : ∃ smaller, bound = smaller + 1 := ⟨bound - 1, by omega⟩
      rw [readValue_brackets, inductionHypothesis bound rest (by omega)]
      rfl
  | emptyObject spacing =>
      intro bound rest ends enough
      simp only [List.length_cons, List.length_append, List.length_nil] at enough
      obtain ⟨bound, rfl⟩ : ∃ smaller, bound = smaller + 2 := ⟨bound - 2, by omega⟩
      have closes := skipSpace_append_cons spacing (show isSpace '}' = false by decide) rest
      rw [readValue_braces, readMembers, closes]
      rfl
  | object inner inductionHypothesis =>
      intro bound rest ends enough
      simp only [List.length_cons, List.length_append, List.length_nil] at enough
      obtain ⟨bound, rfl⟩ : ∃ smaller, bound = smaller + 1 := ⟨bound - 1, by omega⟩
      rw [readValue_braces, inductionHypothesis bound rest (by omega)]
      rfl
  | padded spaceBefore inner spaceAfter inductionHypothesis =>
      intro bound rest ends enough
      simp only [List.length_append] at enough
      refine ⟨_, spaceAfter, ?_⟩
      rw [List.append_assoc, List.append_assoc, ← readValue_skipSpace, skipSpace_append spaceBefore,
        readValue_skipSpace]
      exact inductionHypothesis bound _ (spaceAfter.noneBegins ends) (by omega)
  | lastElement last inductionHypothesis =>
      intro bound rest enough
      obtain ⟨bound, rfl⟩ : ∃ smaller, bound = smaller + 1 := ⟨bound - 1, by omega⟩
      obtain ⟨head, tail, begins, shape⟩ := exists_skipSpace_of_isWritten last
      obtain ⟨space, spacing, read⟩ :=
        inductionHypothesis bound (']' :: rest) (.cons (by decide) rest) (by omega)
      exact readElements_last (shape _) (ne_of_isBeginning begins (by decide)) read
        (skipSpace_append_cons spacing (by decide) rest)
  | @nextElement value elements text others first written firstHypothesis othersHypothesis =>
      intro bound rest enough
      simp only [List.length_append, List.length_cons] at enough
      obtain ⟨bound, rfl⟩ : ∃ smaller, bound = smaller + 1 := ⟨bound - 1, by omega⟩
      obtain ⟨head, tail, begins, shape⟩ := exists_skipSpace_of_isWritten first
      obtain ⟨space, spacing, read⟩ :=
        firstHypothesis bound (',' :: (others ++ ']' :: rest)) (.cons (by decide) _) (by omega)
      rw [List.append_assoc, List.cons_append]
      exact readElements_next (shape _) (ne_of_isBeginning begins (by decide)) read
        (skipSpace_append_cons spacing (by decide) _) (othersHypothesis bound rest (by omega))
  | @member key value before quoted after text spaceBefore spelled spaceAfter inner
      inductionHypothesis =>
      intro bound rest ends enough
      simp only [List.length_append, List.length_cons] at enough
      obtain ⟨space, spacing, read⟩ := inductionHypothesis bound rest ends (by omega)
      obtain @⟨content, inside⟩ := spelled
      have readsKey := readKey_append (.quoted inside) spaceAfter (text ++ rest)
      rw [List.cons_append] at readsKey
      refine ⟨_, _, space, spacing, ?_, readsKey, read⟩
      have begins := skipSpace_append_cons spaceBefore (show isSpace '"' = false by decide)
        (content ++ ['"'] ++ (after ++ ':' :: (text ++ rest)))
      simpa only [List.append_assoc, List.cons_append] using begins
  | lastMember last inductionHypothesis =>
      intro bound rest enough
      obtain ⟨bound, rfl⟩ : ∃ smaller, bound = smaller + 1 := ⟨bound - 1, by omega⟩
      obtain ⟨tail, afterKey, space, spacing, begins, readsKey, read⟩ :=
        inductionHypothesis bound ('}' :: rest) (.cons (by decide) rest) (by omega)
      exact readMembers_last begins readsKey read (skipSpace_append_cons spacing (by decide) rest)
  | @nextMember key value members text others first written firstHypothesis othersHypothesis =>
      intro bound rest enough
      simp only [List.length_append, List.length_cons] at enough
      obtain ⟨bound, rfl⟩ : ∃ smaller, bound = smaller + 1 := ⟨bound - 1, by omega⟩
      obtain ⟨tail, afterKey, space, spacing, begins, readsKey, read⟩ :=
        firstHypothesis bound (',' :: (others ++ '}' :: rest)) (.cons (by decide) _) (by omega)
      rw [List.append_assoc, List.cons_append]
      exact readMembers_next begins readsKey read (skipSpace_append_cons spacing (by decide) _)
        (othersHypothesis bound rest (by omega))

/-- The reader takes a document for the value that it stands for. -/
theorem read?_of_isDocument {text : Text} {value : Json} (document : IsDocument text value) :
    read? text = some value := by
  have nothing : NoneBegins isNumeric [] := fun _ first => absurd first (by simp)
  obtain ⟨space, -, read⟩ := isRead_of_isWritten document (2 * text.length + 2) [] nothing (by omega)
  rw [List.append_nil] at read
  rw [read?, read]
  rfl

/-- A document stands for one value. -/
theorem IsDocument.unique {text : Text} {value other : Json} (document : IsDocument text value)
    (same : IsDocument text other) : value = other := by
  have read := read?_of_isDocument document
  rw [read?_of_isDocument same] at read
  exact (Option.some.inj read).symm

end BacklogTrace.Json
