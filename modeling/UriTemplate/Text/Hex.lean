import UriTemplate.Text

/-!
# Hexadecimal digits

Percent triplets and the notation of code points are written in base sixteen. Digits are
read in either case; each writer chooses the case of its letters.
-/

set_option autoImplicit false

namespace UriTemplate

/-- The case of the letters among hexadecimal digits. -/
inductive HexCase where
  | upper
  | lower
  deriving DecidableEq, Repr

/-- The digit for a number below sixteen. -/
def hexDigit (letters : HexCase) (number : Nat) : CodePoint :=
  let letter : Char := match letters with
    | .upper => 'A'
    | .lower => 'a'
  if number % 16 < 10 then
    Char.ofNat ('0'.toNat + number % 16)
  else
    Char.ofNat (letter.toNat + (number % 16 - 10))

namespace CodePoint

/-- The number that a hexadecimal digit stands for. -/
def hexValue? (point : CodePoint) : Option Nat :=
  let number := point.toNat
  if 0x30 ≤ number ∧ number ≤ 0x39 then some (number - 0x30)
  else if 0x41 ≤ number ∧ number ≤ 0x46 then some (number - 0x41 + 10)
  else if 0x61 ≤ number ∧ number ≤ 0x66 then some (number - 0x61 + 10)
  else none

/-- Digits of either case are read back. -/
theorem hexValue?_hexDigit (letters : HexCase) {number : Nat} (bound : number < 16) :
    (hexDigit letters number).hexValue? = some number := by
  have every : ∀ digit ∈ List.range 16, (hexDigit letters digit).hexValue? = some digit := by
    cases letters <;> decide
  exact every number (List.mem_range.mpr bound)

/-- Hexadecimal digits of either case. -/
def isHexDigit (point : CodePoint) : Bool :=
  point.hexValue?.isSome

end CodePoint

namespace Text

/-- The last `width` hexadecimal digits of a number. -/
def ofHexWidth (letters : HexCase) : (width number : Nat) → Text
  | 0, _ => []
  | width + 1, number =>
      ofHexWidth letters width (number / 16) ++ [hexDigit letters number]

@[simp] theorem length_ofHexWidth (letters : HexCase) (width number : Nat) :
    (ofHexWidth letters width number).length = width := by
  induction width generalizing number with
  | zero => rfl
  | succ width ih => simp [ofHexWidth, ih]

/-- The number of hexadecimal digits in the usual notation of a code point: at least
four. -/
def notationWidth (number : Nat) : Nat :=
  if number < 0x10000 then 4 else if number < 0x100000 then 5 else 6

/-- The usual notation of a code point: `U+`, then its number. -/
def ofNotation (point : CodePoint) : Text :=
  (['U', '+'] : Text) ++ ofHexWidth .upper (notationWidth point.toNat) point.toNat

end Text

end UriTemplate
