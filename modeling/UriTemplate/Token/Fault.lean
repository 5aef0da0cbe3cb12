import UriTemplate.Text.Hex
import UriTemplate.Text.Printable

/-!
# Lexical faults

The lexer stops at the first position where no token can begin or go on. A fault says what
is wrong there; its wording is the value of the error token.
-/

set_option autoImplicit false

namespace UriTemplate

/-- A code point in messages: its notation, and itself in quotes if it is printable. -/
def CodePoint.describe (point : CodePoint) : Text :=
  if point.isPrintable then
    Text.ofNotation point ++ ([' ', '\'', point, '\''] : Text)
  else
    Text.ofNotation point

/-- What can be wrong at a position of a template. -/
inductive LexicalFault where
  | illegalCharacter (point : CodePoint)
  | unfinishedTriplet
  | illegalTriplet (point : CodePoint)
  | unfinishedExpression
  | emptyExpression
  | reservedOperator (point : CodePoint)
  | unexpected (point : CodePoint)
  | missingLength
  deriving DecidableEq, Repr

/-- The wording of a lexical fault. -/
def LexicalFault.message : LexicalFault → Text
  | .illegalCharacter point => ("found illegal character «" : Text) ++ point :: "»"
  | .unfinishedTriplet => "expected two hex digits"
  | .illegalTriplet point => ("expected two hex digits, got " : Text) ++ point.describe
  | .unfinishedExpression => "expected '\x7d', got EOF"
  | .emptyExpression => "empty expression"
  | .reservedOperator point => ("unexpected reserved operator " : Text) ++ point.describe
  | .unexpected point => ("unexpected " : Text) ++ point.describe
  | .missingLength => "expected length"

end UriTemplate
