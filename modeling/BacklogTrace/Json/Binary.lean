/-!
Contract: decimal numbers as binary fractions of fifty-three bits, and the
shortest decimal number that is read as such a fraction.

A positive rational number is rounded to `significand * 2 ^ exponent`, a half
going to the even significand. `Binary.shortest` goes the other way: for one
digit, two digits and so on it tests the neighbours of the number on that
decimal grid, and takes the first grid with a neighbour that is rounded back,
and of two such neighbours the nearer one.

Owns: `Binary`, `Binary.nearest?`, `Binary.shortest`.

Does not own: signs and the layout of digits (`Json.Number`).
-/

namespace BacklogTrace

/-- A positive number of at most fifty-three bits, or zero. -/
structure Binary where
  significand : Nat
  exponent : Int
deriving DecidableEq, Repr

namespace Binary

structure Fraction where
  numerator : Nat
  denominator : Nat
deriving DecidableEq, Repr

/-- The fraction `value * base ^ exponent`. -/
def Fraction.scale (value : Fraction) (base : Nat) (exponent : Int) : Fraction :=
  if 0 ≤ exponent then
    ⟨value.numerator * Nat.pow base exponent.toNat, value.denominator⟩
  else
    ⟨value.numerator, value.denominator * Nat.pow base (-exponent).toNat⟩

/-- The nearest natural number, a half going to the even one. -/
def Fraction.round (value : Fraction) : Nat :=
  let whole := value.numerator / value.denominator
  let twice := 2 * (value.numerator % value.denominator)
  if twice < value.denominator then whole
  else if value.denominator < twice then whole + 1
  else if whole % 2 = 0 then whole
  else whole + 1

def Fraction.lt (left right : Fraction) : Bool :=
  decide (left.numerator * right.denominator < right.numerator * left.denominator)

def leastExponent : Int := -1074

def greatestExponent : Int := 971

/-- The exponent at which a positive number has fifty-three bits before the
point, or the least exponent. -/
def exponentFor (value : Fraction) : Int :=
  let guess : Int := Int.ofNat value.numerator.log2 - Int.ofNat value.denominator.log2 - 53
  let scaled := value.scale 2 (-guess)
  let exact := if Fraction.lt scaled ⟨Nat.pow 2 53, 1⟩ then guess else guess + 1
  max exact leastExponent

/-- The nearest number of fifty-three bits, or none if it is too large. -/
def nearest? (value : Fraction) : Option Binary :=
  if value.numerator = 0 then
    some ⟨0, leastExponent⟩
  else
    let exponent := exponentFor value
    let significand := (value.scale 2 (-exponent)).round
    let carried : Binary :=
      if significand = Nat.pow 2 53 then ⟨Nat.pow 2 52, exponent + 1⟩ else ⟨significand, exponent⟩
    if greatestExponent < carried.exponent then none else some carried

def value (binary : Binary) : Fraction :=
  Fraction.scale ⟨binary.significand, 1⟩ 2 binary.exponent

structure Decimal where
  digits : Nat
  exponent : Int
deriving DecidableEq, Repr

def Decimal.value (decimal : Decimal) : Fraction :=
  Fraction.scale ⟨decimal.digits, 1⟩ 10 decimal.exponent

/-- The neighbours of a number on a decimal grid, the nearer one first. -/
def neighbours (binary : Binary) (grid : Int) : List Decimal :=
  let scaled := binary.value.scale 10 (-grid)
  let below := scaled.numerator / scaled.denominator
  if scaled.round = below then
    [⟨below, grid⟩, ⟨below + 1, grid⟩]
  else
    [⟨below + 1, grid⟩, ⟨below, grid⟩]

/-- The number of decimal digits before the point, or less than one where zeros
follow the point. -/
def magnitude (value : Fraction) : Nat → Int
  | 0 => 0
  | bound + 1 =>
      if value.denominator ≤ value.numerator then
        (Nat.toDigits 10 (value.numerator / value.denominator)).length
      else
        magnitude ⟨value.numerator * 10, value.denominator⟩ bound - 1

/-- The first grid, from the coarsest on, with a neighbour that is rounded
back. -/
def shortestFrom (binary : Binary) (grid : Int) : Nat → Decimal
  | 0 => ⟨0, 0⟩
  | bound + 1 =>
      match (neighbours binary grid).find? fun decimal => nearest? decimal.value == some binary with
      | some decimal => decimal
      | none => shortestFrom binary (grid - 1) bound

/-- The shortest decimal number that is rounded to a positive number. -/
def shortest (binary : Binary) : Decimal :=
  shortestFrom binary (magnitude binary.value 400) 19

end Binary

end BacklogTrace
