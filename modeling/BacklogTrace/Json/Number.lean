import BacklogTrace.Json.Binary
import BacklogTrace.Json.Reader

/-!
Contract: the text of a number that stands where a text is wanted.

A whole number has to fit in 128 bits, with a sign where it is negative. A
number with a fraction or an exponent is rounded to fifty-three bits and given
by its shortest decimal digits, without an exponent.

Owns: `Json.numberText?`.

Does not own: rounding and shortest digits (`Binary`).
-/

namespace BacklogTrace.Json

def digitsValue (digits : Text) : Nat :=
  digits.foldl (fun number digit => number * 10 + (digit.toNat - '0'.toNat)) 0

/-- The text of a whole number that fits. -/
def wholeText? (negative : Bool) (digits : Text) : Option Text :=
  let number := digitsValue digits
  if negative then
    if number = 0 then some ['0']
    else if number ≤ Nat.pow 2 127 then some ('-' :: Text.ofNat number)
    else none
  else
    if number < Nat.pow 2 128 then some (Text.ofNat number) else none

/-- The digits of a decimal number around a point, which stands only where
digits follow it. -/
def positional (decimal : Binary.Decimal) : Text :=
  let digits := Text.ofNat decimal.digits
  if 0 ≤ decimal.exponent then
    digits ++ List.replicate decimal.exponent.toNat '0'
  else
    let places := (-decimal.exponent).toNat
    let padded := List.replicate (places + 1 - digits.length) '0' ++ digits
    padded.take (padded.length - places) ++ '.' :: padded.drop (padded.length - places)

def roundedText (rounded : Option Binary) : Text :=
  match rounded with
  | none => "inf".toList
  | some binary => if binary.significand = 0 then ['0'] else positional binary.shortest

/-- The number `digits * 10 ^ exponent`, rounded. Numbers far beyond either end
are not computed. -/
def roundDecimal (digits : Nat) (exponent : Int) : Option Binary :=
  let magnitude : Int := exponent + (Nat.toDigits 10 digits).length
  if digits = 0 ∨ magnitude < -400 then
    some ⟨0, Binary.leastExponent⟩
  else if 400 < magnitude then
    none
  else
    Binary.nearest? (Binary.Fraction.scale ⟨digits, 1⟩ 10 exponent)

def exponentValue (written : Text) : Int :=
  match written with
  | '-' :: digits => -Int.ofNat (digitsValue digits)
  | '+' :: digits => Int.ofNat (digitsValue digits)
  | digits => Int.ofNat (digitsValue digits)

/-- The text of a number, by its written form. -/
def numberText? (literal : Text) : Option Text :=
  let (sign, unsigned) := readSign ['-'] literal
  let negative := !sign.isEmpty
  let isMark (character : Char) : Bool := character == 'e' || character == 'E'
  if unsigned.all Char.isDigit then
    wholeText? negative unsigned
  else
    let mantissa := unsigned.takeWhile fun character => !isMark character
    let exponent := exponentValue ((unsigned.dropWhile fun character => !isMark character).drop 1)
    let whole := mantissa.takeWhile (· != '.')
    let fraction := (mantissa.dropWhile (· != '.')).drop 1
    some (sign ++ roundedText
      (roundDecimal (digitsValue (whole ++ fraction)) (exponent - Int.ofNat fraction.length)))

end BacklogTrace.Json
