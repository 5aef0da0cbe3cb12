import UriTemplate.Text.Hex
import UriTemplate.Text.Printable

/-!
# Quoted literals

Texts and byte strings inside messages and inside printed collections are quoted. The mark
is a single quote, or a double quote where that spares escaping single ones. The mark and
the backslash are escaped, and whatever cannot be shown as itself is written by its number
in lowercase hexadecimal digits.
-/

set_option autoImplicit false

namespace UriTemplate.Quoted

/-- The quotation mark for a text: double quotes where the text has single ones only. -/
def markFor (text : Text) : CodePoint :=
  if text.contains '\'' && !text.contains '"' then '"' else '\''

/-- A backslash, a letter, and a number of `width` digits. -/
def numeric (letter : Char) (width number : Nat) : Text :=
  (['\\', letter] : Text) ++ Text.ofHexWidth .lower width number

/-- The short escapes, which the mark, the backslash and three blanks have. -/
def shortEscape? (mark point : CodePoint) : Option Text :=
  if point = mark ∨ point = '\\' then some ['\\', point]
  else if point = '\t' then some ['\\', 't']
  else if point = '\n' then some ['\\', 'n']
  else if point = '\r' then some ['\\', 'r']
  else none

/-- A code point inside a quoted text. -/
def escapePoint (mark point : CodePoint) : Text :=
  match shortEscape? mark point with
  | some escaped => escaped
  | none =>
      if point.isPrintable then [point]
      else if point.toNat < 0x100 then numeric 'x' 2 point.toNat
      else if point.toNat < 0x10000 then numeric 'u' 4 point.toNat
      else numeric 'U' 8 point.toNat

/-- A quoted text. -/
def ofText (text : Text) : Text :=
  let mark := markFor text
  mark :: text.flatMap (escapePoint mark) ++ [mark]

/-- A code point inside a quoted byte string, where it stands for a byte. -/
def escapeByte (mark point : CodePoint) : Text :=
  match shortEscape? mark point with
  | some escaped => escaped
  | none =>
      if 0x20 ≤ point.toNat ∧ point.toNat < 0x7F then [point]
      else numeric 'x' 2 point.toNat

/-- A quoted byte string. -/
def ofBytes (bytes : List UInt8) : Text :=
  let points := bytes.map CodePoint.ofLatin
  let mark := markFor points
  (['b', mark] : Text) ++ points.flatMap (escapeByte mark) ++ [mark]

/-- A quoted byte array. Its marks are chosen as for a byte string, but inside them it is
always the single quote that is escaped. -/
def ofByteArray (bytes : List UInt8) : Text :=
  let points := bytes.map CodePoint.ofLatin
  let mark := markFor points
  ("bytearray(b" : Text) ++ mark :: points.flatMap (escapeByte '\'') ++ [mark, ')']

end UriTemplate.Quoted
