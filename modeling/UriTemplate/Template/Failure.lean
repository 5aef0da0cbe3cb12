import UriTemplate.Template
import UriTemplate.Text.Digit
import UriTemplate.Token
import UriTemplate.Utf8

/-!
# Failures of the parser

A template that breaks the grammar is rejected with a parse error, which has a cause and a
position and can be shown with a caret under the fault. The other failures come from
tokens that no template has: a token that the state of the parser does not provide for, a
value that the model refuses, or text that cannot be encoded.
-/

set_option autoImplicit false

namespace UriTemplate

/-- What the grammar has against a template. -/
inductive ParseError.Cause where
  | lexical (wording : Text)
  | expectedVariable
  | doubleModifier
  | unexpectedAfterVariable
  | lengthTooGreat
  deriving DecidableEq, Repr

/-- A template that breaks the grammar, and where it does. -/
structure ParseError where
  cause : ParseError.Cause
  position : Int
  template : Text
  deriving DecidableEq, Repr

namespace ParseError

/-- The wording of a cause. -/
def Cause.wording : Cause → Text
  | .lexical wording => wording
  | .expectedVariable => "expected a variable name"
  | .doubleModifier => "a variable can only have one modifier"
  | .unexpectedAfterVariable => "expected one of '.', ',', ':', '*' or '\x7d' after variable"
  | .lengthTooGreat => "prefix length must be between 0 and 9999"

/-- The cause with its position. -/
def message (error : ParseError) : Text :=
  error.cause.wording ++ (" at position " : Text) ++ Text.ofInt error.position

/-- The cause, the template, and a caret under the position. -/
def render (error : ParseError) : Text :=
  ("error at col " : Text) ++ Text.ofInt (error.position + 1) ++ (": " : Text) ++
    error.cause.wording ++ ('\n' : CodePoint) :: error.template ++
    ('\n' : CodePoint) :: List.replicate error.position.toNat (' ' : CodePoint) ++ (['^'] : Text)

end ParseError

namespace Parser

/-- What the parser expects next: the text outside expressions, an operator or a name, a
name, what may follow a variable, or the digits of a length. -/
inductive State where
  | raw
  | maybeOperator
  | expression
  | afterVariable
  | length
  deriving DecidableEq, Repr

namespace State

/-- The label of a state in messages. -/
def label : State → Text
  | .raw => "RAW"
  | .maybeOperator => "MAYBE_OP"
  | .expression => "EXPR"
  | .afterVariable => "AFTER_VAR"
  | .length => "LENGTH"

/-- All states. -/
def all : List State :=
  [raw, maybeOperator, expression, afterVariable, length]

/-- The state with a given label. -/
def ofLabel? (label : Text) : Option State :=
  all.find? fun state => state.label == label

end State

/-- Why the parser stops without a template. -/
inductive Failure where
  | rejected (error : ParseError)
  | undefinedState (state : State) (token : Token)
  | model (error : ModelError)
  | badNumber (digits : Text) (error : Text.NumeralError)
  | emptyName
  | unencodable (stretch : Utf8.Unencodable)
  | endOfTokens (state : State)
  deriving DecidableEq, Repr

/-- The positions of a stretch that cannot be encoded. -/
def stretchText (stretch : Utf8.Unencodable) : Text :=
  if stretch.count = 1 then
    ("character '" : Text) ++ Quoted.numeric 'u' 4 stretch.point.toNat ++
      ("' in position " : Text) ++ Text.ofNat stretch.first
  else
    ("characters in position " : Text) ++ Text.ofNat stretch.first ++ (['-'] : Text) ++
      Text.ofNat (stretch.first + stretch.count - 1)

/-- The wording of a failure. Digits that spell no number are shown up to a length. -/
def Failure.message : Failure → Text
  | .rejected error => error.message
  | .undefinedState state token =>
      ("undefined state!\ncurrent state: " : Text) ++ state.label ++
        ("\ncurrent token: " : Text) ++ token.describe
  | .model error => error.message
  | .badNumber digits .malformed =>
      ("invalid literal for int() with base 10: " : Text) ++ (Quoted.ofText digits).take 200
  | .badNumber _ (.tooManyDigits count) =>
      Text.digitLimitWording
        ((": value has " : Text) ++ Text.ofNat count ++ (" digits" : Text))
  | .emptyName => "string index out of range"
  | .unencodable stretch =>
      ("'utf-8' codec can't encode " : Text) ++ stretchText stretch ++
        (": surrogates not allowed" : Text)
  | .endOfTokens state => ("token stream ended without EOF in state " : Text) ++ state.label

end Parser

end UriTemplate
