import UriTemplate.Text.Printable

/-!
# Digits and blanks of all scripts

A decimal digit belongs to one of the Unicode 14 runs of ten that begin with a zero; a
superscript or circled digit is a digit without being decimal. `readInt` reads a number
written in decimal digits of any script, with a sign, with blanks around it and with
single underscores between its digits, as long as these are not too many. `plainNumeral?`
brings a numeral that may be written like this into the form of a plain ASCII one.
-/

set_option autoImplicit false

namespace UriTemplate

/-- The zeros of the runs of decimal digits. -/
def decimalZeros : List Nat := [
    0x30, 0x660, 0x6F0, 0x7C0, 0x966, 0x9E6, 0xA66, 0xAE6, 0xB66, 0xBE6, 0xC66, 0xCE6, 0xD66,
    0xDE6, 0xE50, 0xED0, 0xF20, 0x1040, 0x1090, 0x17E0, 0x1810, 0x1946, 0x19D0, 0x1A80, 0x1A90,
    0x1B50, 0x1BB0, 0x1C40, 0x1C50, 0xA620, 0xA8D0, 0xA900, 0xA9D0, 0xA9F0, 0xAA50, 0xABF0,
    0xFF10, 0x104A0, 0x10D30, 0x11066, 0x110F0, 0x11136, 0x111D0, 0x112F0, 0x11450, 0x114D0,
    0x11650, 0x116C0, 0x11730, 0x118E0, 0x11950, 0x11C50, 0x11D50, 0x11DA0, 0x16A60, 0x16AC0,
    0x16B50, 0x1D7CE, 0x1D7D8, 0x1D7E2, 0x1D7EC, 0x1D7F6, 0x1E140, 0x1E2F0, 0x1E950, 0x1FBF0]

/-- The digits that are not decimal. -/
def otherDigits : List Stretch := [
    (0xB2, 0xB3), (0xB9, 0xB9), (0x1369, 0x1371), (0x19DA, 0x19DA), (0x2070, 0x2070),
    (0x2074, 0x2079), (0x2080, 0x2089), (0x2460, 0x2468), (0x2474, 0x247C), (0x2488, 0x2490),
    (0x24EA, 0x24EA), (0x24F5, 0x24FD), (0x24FF, 0x24FF), (0x2776, 0x277E), (0x2780, 0x2788),
    (0x278A, 0x2792), (0x10A40, 0x10A43), (0x10E60, 0x10E68), (0x11052, 0x1105A),
    (0x1F100, 0x1F10A)]

/-- The blanks that may stand around a number. -/
def blanks : List Stretch := [
    (0x9, 0xD), (0x20, 0x20), (0x85, 0x85), (0xA0, 0xA0), (0x1680, 0x1680), (0x2000, 0x200A),
    (0x2028, 0x2029), (0x202F, 0x202F), (0x205F, 0x205F), (0x3000, 0x3000)]

namespace CodePoint

/-- The number from zero to nine that a decimal digit stands for. -/
def decimalValue? (point : CodePoint) : Option Nat :=
  (decimalZeros.find? fun first => first ≤ point.toNat && point.toNat < first + 10).map
    (point.toNat - ·)

/-- Whether a code point is a digit of any script, decimal or not. -/
def isAnyDigit (point : CodePoint) : Bool :=
  point.decimalValue?.isSome || Stretch.anyCovers point.toNat otherDigits

/-- The ASCII digit or lowercase letter for a digit of any script or an ASCII letter. -/
def plain (point : CodePoint) : CodePoint :=
  match point.decimalValue? with
  | some value => Char.ofNat ('0'.toNat + value)
  | none =>
      if 0x41 ≤ point.toNat ∧ point.toNat ≤ 0x5A then Char.ofNat (point.toNat + 0x20)
      else point

/-- Whether a code point may stand around a number. -/
def isBlank (point : CodePoint) : Bool :=
  Stretch.anyCovers point.toNat blanks

end CodePoint

namespace Text

/-- A text without the blanks at its ends. -/
def trimBlanks (text : Text) : Text :=
  ((text.dropWhile CodePoint.isBlank).reverse.dropWhile CodePoint.isBlank).reverse

/-- Why a text is not read as a number. -/
inductive NumeralError where
  | malformed
  | tooManyDigits (count : Nat)
  deriving DecidableEq, Repr

/-- Digits at the beginning of a text: what they spell, how many they are, and what is behind
them. -/
structure DigitRun where
  value : Nat
  count : Nat
  behind : Text

/-- Read as many digits as there are, `value` being what the digits before them spell, and
`count` how many those are. -/
def readDigits? (value count : Nat) : Text → Option DigitRun
  | [] => some ⟨value, count, []⟩
  | point :: rest =>
      match point.decimalValue? with
      | some digit => readDigits? (value * 10 + digit) (count + 1) rest
      | none =>
          if point = '_' then afterUnderscore? value count rest
          else some ⟨value, count, point :: rest⟩
where
  /-- Read the digit that has to follow an underscore, and go on. -/
  afterUnderscore? (value count : Nat) : Text → Option DigitRun
    | [] => none
    | point :: rest =>
        match point.decimalValue? with
        | some digit => readDigits? (value * 10 + digit) (count + 1) rest
        | none => none

/-- Read an unsigned number. Its digits are counted before it matters what is behind them. -/
def readNat : Text → Except NumeralError Nat
  | [] => .error .malformed
  | point :: rest =>
      match point.decimalValue?.bind fun digit => readDigits? digit 1 rest with
      | none => .error .malformed
      | some run =>
          if digitLimit < run.count then .error (.tooManyDigits run.count)
          else if run.behind.isEmpty then .ok run.value
          else .error .malformed

/-- Read a number. -/
def readInt (text : Text) : Except NumeralError Int :=
  match trimBlanks text with
  | [] => .error .malformed
  | point :: rest =>
      if point = '-' then (readNat rest).map fun number => -(number : Int)
      else if point = '+' then (readNat rest).map Int.ofNat
      else (readNat (point :: rest)).map Int.ofNat

/-- A numeral without the underscores between its digits, `afterDigit` telling whether a
digit stands before it. -/
def joinDigits? (afterDigit : Bool) : Text → Option Text
  | [] => some []
  | point :: rest =>
      if point = '_' then
        match rest with
        | [] => none
        | next :: _ => if afterDigit && next.isDigit then joinDigits? false rest else none
      else
        (joinDigits? point.isDigit rest).map (point :: ·)

/-- A numeral in plain form: without blanks around it, in lowercase, with ASCII digits for
those of all scripts, and without the single underscores between its digits. -/
def plainNumeral? (text : Text) : Option Text :=
  joinDigits? false ((trimBlanks text).map CodePoint.plain)

end Text

end UriTemplate
