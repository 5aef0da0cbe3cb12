import UriTemplate.Text.Digit

/-!
# Binary floating-point numbers

A floating-point number of 64 bits is not a number, an infinity, or a significand times a
power of two. The significand is below `2 ^ 53` and the exponent at least `-1074`, and
the significand is at least `2 ^ 52` wherever the exponent could still be lowered, so
equal numbers of one sign have equal parts. All arithmetic is exact arithmetic on whole
numbers.
-/

set_option autoImplicit false

namespace UriTemplate

/-- A floating-point number of 64 bits. -/
inductive Binary64 where
  | nan
  | infinite (negative : Bool)
  | finite (negative : Bool) (significand : Nat) (exponent : Int)
  deriving DecidableEq, Repr

namespace Binary64

/-- The quotient of two numbers rounded to a whole number, a half to the even one. -/
def roundQuotient (numerator denominator : Nat) : Nat :=
  let quotient := numerator / denominator
  let remainder := numerator % denominator
  if 2 * remainder < denominator then quotient
  else if denominator < 2 * remainder then quotient + 1
  else quotient + quotient % 2

/-- The exponent of the greatest power of two that is not above a positive quotient. -/
def quotientLog2 (numerator denominator : Nat) : Int :=
  let estimate : Int := (Nat.log2 numerator : Int) - Nat.log2 denominator
  let reached :=
    if 0 ≤ estimate then denominator * Nat.pow 2 estimate.toNat ≤ numerator
    else denominator ≤ numerator * Nat.pow 2 (-estimate).toNat
  if reached then estimate else estimate - 1

/-- The least significand of a number whose exponent could still be lowered: `2 ^ 52`. -/
def hiddenBit : Nat := 0x10000000000000

/-- The floating-point number nearest to a quotient. -/
def ofQuotient (negative : Bool) (numerator denominator : Nat) : Binary64 :=
  if numerator = 0 then
    .finite negative 0 (-1074)
  else
    let exponent := max (-1074) (quotientLog2 numerator denominator - 52)
    let significand :=
      if 0 ≤ exponent then roundQuotient numerator (denominator * Nat.pow 2 exponent.toNat)
      else roundQuotient (numerator * Nat.pow 2 (-exponent).toNat) denominator
    let (significand, exponent) :=
      if significand = hiddenBit * 2 then (hiddenBit, exponent + 1)
      else (significand, exponent)
    if 971 < exponent then .infinite negative
    else .finite negative significand exponent

/-- The floating-point number nearest to a decimal number with `digits` significant
digits. Powers of ten far out of range are not computed. -/
def ofDecimal (negative : Bool) (digits significand : Nat) (exponent : Int) : Binary64 :=
  if significand = 0 ∨ (digits : Int) + exponent < -330 then
    .finite negative 0 (-1074)
  else if 330 < exponent then
    .infinite negative
  else if 0 ≤ exponent then
    ofQuotient negative (significand * Nat.pow 10 exponent.toNat) 1
  else
    ofQuotient negative significand (Nat.pow 10 (-exponent).toNat)

/-- The number spelled by ASCII digits, which may be none. -/
def digitsValue (digits : Text) : Nat :=
  digits.foldl (fun value digit => value * 10 + (digit.toNat - 0x30)) 0

/-- Read the exponent of a decimal number, from its letter on. -/
def exponent? : Text → Option Int
  | [] => some 0
  | letter :: rest =>
      if letter = 'e' ∨ letter = 'E' then
        let (negative, digits) : Bool × Text := match rest with
          | [] => (false, [])
          | sign :: digits =>
              if sign = '-' then (true, digits)
              else if sign = '+' then (false, digits)
              else (false, sign :: digits)
        if digits.isEmpty || !digits.all CodePoint.isDigit then none
        else if negative then some (-(digitsValue digits : Int))
        else some (digitsValue digits)
      else
        none

/-- Read a decimal number without a sign. -/
def ofUnsignedText? (negative : Bool) (text : Text) : Option Binary64 :=
  if text = ("nan" : Text) then some .nan
  else if text = ("inf" : Text) ∨ text = ("infinity" : Text) then some (.infinite negative)
  else
    let whole := text.takeWhile CodePoint.isDigit
    let (fraction, rest) : Text × Text := match text.dropWhile CodePoint.isDigit with
      | [] => ([], [])
      | point :: rest =>
          if point = '.' then
            (rest.takeWhile CodePoint.isDigit, rest.dropWhile CodePoint.isDigit)
          else
            ([], point :: rest)
    if whole.isEmpty && fraction.isEmpty then
      none
    else
      (exponent? rest).map fun exponent =>
        ofDecimal negative (whole.length + fraction.length)
          (digitsValue (whole ++ fraction)) (exponent - fraction.length)

/-- Read a decimal number in plain form. -/
def ofNumeral? : Text → Option Binary64
  | [] => none
  | sign :: rest =>
      if sign = '-' then ofUnsignedText? true rest
      else if sign = '+' then ofUnsignedText? false rest
      else ofUnsignedText? false (sign :: rest)

/-- Read a decimal number. -/
def ofText? (text : Text) : Option Binary64 :=
  (Text.plainNumeral? text).bind ofNumeral?

/-- Whether a floating-point number is equal to a whole number. -/
def equalsInt : Binary64 → Int → Bool
  | .finite negative significand exponent, number =>
      let signed : Int := if negative then -(significand : Int) else significand
      if 0 ≤ exponent then signed * Nat.pow 2 exponent.toNat == number
      else signed == number * Nat.pow 2 (-exponent).toNat
  | _, _ => false

/-- Whether two floating-point numbers are equal as numbers: zero has no sign, and what is
not a number is equal to nothing. -/
def equals : Binary64 → Binary64 → Bool
  | .nan, _ | _, .nan => false
  | .finite _ 0 _, .finite _ 0 _ => true
  | left, right => left == right

end Binary64

end UriTemplate
