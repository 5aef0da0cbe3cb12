import UriTemplate.Percent

/-!
# Operators

The operator after the opening brace of an expression decides how the expression expands.
Each operator has one row of a table: the text that goes first, the separator between
items, whether items have names, what follows the name of an empty value, and the bytes
that are percent-encoded in values.
-/

set_option autoImplicit false

namespace UriTemplate

/-- The expression operators. -/
inductive Operator where
  | simple
  | reserved
  | fragment
  | label
  | path
  | pathParam
  | query
  | continuation
  deriving DecidableEq, Repr

namespace Operator

/-- All operators. -/
def all : List Operator :=
  [simple, reserved, fragment, label, path, pathParam, query, continuation]

/-- The symbol of an operator, which is empty for simple expansion. -/
def symbol : Operator → Text
  | .simple => []
  | .reserved => ['+']
  | .fragment => ['#']
  | .label => ['.']
  | .path => ['/']
  | .pathParam => [';']
  | .query => ['?']
  | .continuation => ['&']

/-- The operator with a given symbol. -/
def ofSymbol? (symbol : Text) : Option Operator :=
  all.find? fun operator => operator.symbol == symbol

@[simp] theorem ofSymbol?_symbol (operator : Operator) :
    ofSymbol? operator.symbol = some operator := by
  cases operator <;> rfl

/-- What an expansion begins with if it is not empty. -/
def first : Operator → Text
  | .simple | .reserved => []
  | operator => operator.symbol

/-- What stands between two items. -/
def separator : Operator → Text
  | .label => ['.']
  | .path => ['/']
  | .pathParam => [';']
  | .query | .continuation => ['&']
  | _ => [',']

/-- Whether items are written with their names. -/
def named : Operator → Bool
  | .pathParam | .query | .continuation => true
  | _ => false

/-- What follows the name of an item whose value is empty. -/
def ifEmpty : Operator → Text
  | .pathParam => []
  | _ => ['=']

/-- The bytes of values that are percent-encoded. -/
def mask : Operator → Mask
  | .reserved | .fragment => .disallowedOnly
  | _ => .allButUnreserved

end Operator

end UriTemplate
