import UriTemplate.Text.Quoted

/-!
# Tokens

The lexer cuts a template into tokens. A token has a type, a value and the position at
which it begins. The value is the text of the token as it stands in the template, except
that a percent triplet has its byte as value, the end has none, and an error has its
wording.
-/

set_option autoImplicit false

namespace UriTemplate

/-- The types of tokens. -/
inductive TokenType where
  | separator
  | leftBrace
  | rightBrace
  | operator
  | explode
  | colon
  | length
  | dot
  | comma
  | raw
  | name
  | endOfInput
  | error
  deriving DecidableEq, Repr

/-- A token. -/
structure Token where
  type : TokenType
  value : Text
  position : Int
  deriving DecidableEq, Repr

namespace TokenType

/-- The label of a token type in messages. -/
def label : TokenType → Text
  | .separator => "SEPARATOR"
  | .leftBrace => "LBRACE"
  | .rightBrace => "RBRACE"
  | .operator => "OPERATOR"
  | .explode => "EXPLODE"
  | .colon => "PREFIX"
  | .length => "LENGTH"
  | .dot => "DOT"
  | .comma => "COMMA"
  | .raw => "RAW"
  | .name => "VARIABLE"
  | .endOfInput => "EOF"
  | .error => "ERROR"

/-- All token types. -/
def all : List TokenType :=
  [separator, leftBrace, rightBrace, operator, explode, colon, length, dot, comma, raw, name,
    endOfInput, error]

/-- The token type with a given label. -/
def ofLabel? (label : Text) : Option TokenType :=
  all.find? fun type => type.label == label

/-- Whether nothing follows tokens of a type. -/
def isTerminal : TokenType → Bool
  | .endOfInput | .error => true
  | _ => false

end TokenType

namespace Token

/-- Whether nothing follows a token. -/
def isTerminal (token : Token) : Bool :=
  token.type.isTerminal

/-- A token in short. -/
def summary (token : Token) : Text :=
  match token.type with
  | .error => ("ERROR " : Text) ++ token.value
  | .endOfInput => "EOF"
  | .raw => Quoted.ofText token.value
  | .name => ('\'' : CodePoint) :: token.value ++ (['\''] : Text)
  | _ => token.value

/-- A token in full. -/
def describe (token : Token) : Text :=
  ("Token(" : Text) ++ token.type.label ++ (", " : Text) ++ Quoted.ofText token.value ++
    (", pos=" : Text) ++ Text.ofInt token.position ++ (")" : Text)

end Token

end UriTemplate
