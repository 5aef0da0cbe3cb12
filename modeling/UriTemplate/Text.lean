/-!
# Code points and texts

A template, a value and a message are all texts: lists of code points. A code point
is any number below `0x110000`, surrogates included, because a percent triplet or a
byte string may stand for a byte that belongs to no character, and such a byte is
carried as a surrogate. Positions and lengths count code points.
-/

set_option autoImplicit false

namespace UriTemplate

/-- A Unicode code point, surrogates included. -/
structure CodePoint where
  toNat : Nat
  isLt : toNat < 0x110000
  deriving DecidableEq, Repr

namespace CodePoint

theorem ext_toNat {left right : CodePoint} (equal : left.toNat = right.toNat) :
    left = right := by
  cases left
  cases right
  simp_all

/-- The code point of a character. -/
def ofChar (char : Char) : CodePoint :=
  ⟨char.toNat, by
    have valid := char.valid
    simp only [UInt32.isValidChar, Nat.isValidChar] at valid
    simp only [Char.toNat]
    omega⟩

instance : Coe Char CodePoint := ⟨ofChar⟩

@[simp] theorem toNat_ofChar (char : Char) : (ofChar char).toNat = char.toNat := rfl

@[simp] theorem ofChar_inj {left right : Char} : ofChar left = ofChar right ↔ left = right := by
  constructor
  · intro equal
    have sameNumber : left.toNat = right.toNat := congrArg toNat equal
    exact Char.toNat_inj.mp sameNumber
  · intro equal
    rw [equal]

/-- The code point with a given number, if there is one. -/
def ofNat? (number : Nat) : Option CodePoint :=
  if bound : number < 0x110000 then some ⟨number, bound⟩ else none

/-- Surrogates are code points that no character has. -/
def isSurrogate (point : CodePoint) : Bool :=
  0xD800 ≤ point.toNat && point.toNat ≤ 0xDFFF

/-- The code point that has a byte as its number. -/
def ofLatin (byte : UInt8) : CodePoint :=
  ⟨byte.toNat, by have := byte.toNat_lt; omega⟩

@[simp] theorem toNat_ofLatin (byte : UInt8) : (ofLatin byte).toNat = byte.toNat := rfl

/-- The surrogate that carries a byte which belongs to no character. -/
def ofStrayByte (byte : UInt8) : CodePoint :=
  ⟨0xDC00 + byte.toNat, by have := byte.toNat_lt; omega⟩

@[simp] theorem toNat_ofStrayByte (byte : UInt8) :
    (ofStrayByte byte).toNat = 0xDC00 + byte.toNat := rfl

/-- The byte that a surrogate carries. Only bytes from `0x80` on are ever stray. -/
def strayByte? (point : CodePoint) : Option UInt8 :=
  if 0xDC80 ≤ point.toNat ∧ point.toNat ≤ 0xDCFF then
    some (UInt8.ofNat (point.toNat - 0xDC00))
  else
    none

/-- Surrogates that carry no byte. -/
def isLoneSurrogate (point : CodePoint) : Bool :=
  point.isSurrogate && point.strayByte?.isNone

/-- ASCII letters. -/
def isLetter (point : CodePoint) : Bool :=
  (0x41 ≤ point.toNat && point.toNat ≤ 0x5A) ||
    (0x61 ≤ point.toNat && point.toNat ≤ 0x7A)

/-- ASCII decimal digits. -/
def isDigit (point : CodePoint) : Bool :=
  0x30 ≤ point.toNat && point.toNat ≤ 0x39

/-- Characters of variable names. -/
def isNameChar (point : CodePoint) : Bool :=
  point.isLetter || point.isDigit || point == '_'

end CodePoint

/-- A sequence of code points. -/
abbrev Text := List CodePoint

namespace Text

/-- The code points of a string. -/
def ofString (string : String) : Text :=
  string.toList.map CodePoint.ofChar

instance : Coe String Text := ⟨ofString⟩

/-- The digits of a number in base ten. -/
def ofNat (number : Nat) : Text :=
  (Nat.toDigits 10 number).map CodePoint.ofChar

/-- A number in base ten, with a minus sign if it is negative. -/
def ofInt : Int → Text
  | .ofNat number => ofNat number
  | .negSucc number => (['-'] : Text) ++ ofNat (number + 1)

/-- How many digits a number may have where it becomes a text, or a text becomes a number. -/
def digitLimit : Nat := 4300

/-- A number in base ten, if it does not have too many digits. -/
def ofInt? (number : Int) : Option Text :=
  if (ofNat number.natAbs).length ≤ digitLimit then some (ofInt number) else none

/-- The wording for a number with too many digits, with what else there is to say of it. -/
def digitLimitWording (more : Text) : Text :=
  ("Exceeds the limit (" : Text) ++ ofNat digitLimit ++
    (" digits) for integer string conversion" : Text) ++ more ++
    ("; use sys.set_int_max_str_digits() to increase the limit" : Text)

/-- Lexicographic order of texts by code point. -/
def precedes : Text → Text → Bool
  | [], _ => true
  | _ :: _, [] => false
  | left :: lefts, right :: rights =>
      left.toNat < right.toNat || (left == right && precedes lefts rights)

end Text

end UriTemplate
