import UriTemplate.Binary64

/-!
# The shortest decimal form of a floating-point number

A finite number is written with the fewest digits that still round to it, and of those
digits with the nearest ones, a tie going to the even digit. The interval of reals that
round to a number ends half way to its neighbours, and the ends belong to it exactly if the
significand is even. For each count of digits only the two points of the decimal grid around
the number matter: if any point of the grid lies in the interval, one of these does.
-/

set_option autoImplicit false

namespace UriTemplate.Binary64

/-- A positive number with the ends of its rounding interval, all in units of one
denominator. -/
structure Interval where
  low : Nat
  value : Nat
  high : Nat
  denominator : Nat
  closed : Bool
  deriving Repr

/-- The rounding interval of `significand * 2 ^ exponent`. Below a power of two the
neighbour is nearer by half. -/
def intervalOf (significand : Nat) (exponent : Int) : Interval :=
  let scale := Nat.pow 2 exponent.toNat
  let below := if significand = hiddenBit ∧ -1074 < exponent then 1 else 2
  { low := (4 * significand - below) * scale
    value := 4 * significand * scale
    high := (4 * significand + 2) * scale
    denominator := 4 * Nat.pow 2 (-exponent).toNat
    closed := significand % 2 == 0 }

/-- A power of ten as a fraction. -/
def tenPower (exponent : Int) : Nat × Nat :=
  (Nat.pow 10 exponent.toNat, Nat.pow 10 (-exponent).toNat)

namespace Interval

/-- Whether the grid point `point * 10 ^ exponent` rounds to the number. -/
def contains (interval : Interval) (point : Nat) (exponent : Int) : Bool :=
  let (numerator, denominator) := tenPower exponent
  let position := point * numerator * interval.denominator
  let low := interval.low * denominator
  let high := interval.high * denominator
  if interval.closed then low ≤ position && position ≤ high
  else low < position && position < high

/-- The grid point at or below the number. -/
def floorPoint (interval : Interval) (exponent : Int) : Nat :=
  let (numerator, denominator) := tenPower exponent
  interval.value * denominator / (numerator * interval.denominator)

/-- Whether the grid point above the number is to be taken rather than the one below: it
is nearer, or as near and even. -/
def prefersUpper (interval : Interval) (lower : Nat) (exponent : Int) : Bool :=
  let (numerator, denominator) := tenPower exponent
  let middle := (2 * lower + 1) * numerator * interval.denominator
  let doubled := 2 * interval.value * denominator
  middle < doubled || (middle == doubled && lower % 2 == 1)

/-- The point of a grid that rounds to the number, the nearer one if there are two, and the
even one if both are as near. -/
def gridPoint? (interval : Interval) (exponent : Int) : Option Nat :=
  let lower := interval.floorPoint exponent
  let upper := lower + 1
  match interval.contains lower exponent, interval.contains upper exponent with
  | true, true => some (if interval.prefersUpper lower exponent then upper else lower)
  | true, false => some lower
  | false, true => some upper
  | false, false => none

/-- Search ever finer grids, at most `count` of them, for a point that rounds to the
number. The exact point stands in where none of them has one. -/
def search (interval : Interval) : (count : Nat) → (exponent : Int) → Nat × Int
  | 0, exponent => (interval.floorPoint exponent, exponent)
  | count + 1, exponent =>
      match interval.gridPoint? exponent with
      | some point => (point, exponent)
      | none => search interval count (exponent - 1)

end Interval

/-- Drop the zeros at the end of a decimal significand. -/
def dropZeros : (count significand : Nat) → (exponent : Int) → Nat × Int
  | 0, significand, exponent => (significand, exponent)
  | count + 1, significand, exponent =>
      if significand % 10 = 0 then dropZeros count (significand / 10) (exponent + 1)
      else (significand, exponent)

/-- The shortest decimal significand and exponent of a positive number. The first grid is
the one on which the number has one digit, and seventeen digits always suffice. -/
def shortestDecimal (significand : Nat) (exponent : Int) : Nat × Int :=
  let interval := intervalOf significand exponent
  let start : Int :=
    if interval.denominator ≤ interval.value then
      (Nat.toDigits 10 (interval.value / interval.denominator)).length - 1
    else
      -((Nat.toDigits 10 (interval.denominator / interval.value)).length : Int)
  let (point, power) := interval.search 17 start
  dropZeros 20 point power

/-- How numbers are laid out: positional for exponents from `least` up to, but not
including, `bound`, and otherwise with an exponent of at least two digits. -/
structure Layout where
  least : Int
  bound : Int
  deriving Repr

/-- Numbers from `0.0001` up to, but not including, `10 ^ 16` are positional. -/
def layout : Layout := ⟨-4, 16⟩

/-- The text of an exponent, with its sign and at least two digits. -/
def exponentText (exponent : Int) : Text :=
  let sign : Text := if exponent < 0 then ['e', '-'] else ['e', '+']
  let digits := Text.ofNat exponent.natAbs
  sign ++ (if digits.length < 2 then (['0'] : Text) ++ digits else digits)

/-- The text of a decimal significand and exponent. -/
def decimalText (significand : Nat) (exponent : Int) : Text :=
  let digits := Text.ofNat significand
  let leading := exponent + digits.length - 1
  let zeros (count : Int) : Text := List.replicate count.toNat '0'
  if leading < layout.least ∨ layout.bound ≤ leading then
    match digits with
    | [] => []
    | [digit] => digit :: exponentText leading
    | digit :: rest => digit :: ('.' : CodePoint) :: rest ++ exponentText leading
  else if leading < 0 then
    (['0', '.'] : Text) ++ zeros (-leading - 1) ++ digits
  else if 0 ≤ exponent then
    digits ++ zeros exponent ++ (['.', '0'] : Text)
  else
    let whole := (leading + 1).toNat
    digits.take whole ++ (['.'] : Text) ++ digits.drop whole

/-- The text of a floating-point number. -/
def toText : Binary64 → Text
  | .nan => "nan"
  | .infinite negative => if negative then "-inf" else "inf"
  | .finite negative significand exponent =>
      let sign : Text := if negative then ['-'] else []
      if significand = 0 then
        sign ++ ("0.0" : Text)
      else
        let (point, power) := shortestDecimal significand exponent
        sign ++ decimalText point power

end UriTemplate.Binary64
