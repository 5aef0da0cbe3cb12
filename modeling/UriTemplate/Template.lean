import UriTemplate.Operator
import UriTemplate.Text.Quoted

/-!
# Templates

A template is a list of parts: literal text, path separators, and expressions. An
expression has an operator and at least one variable, and a variable has a path of at
least one name and at most one modifier. These bounds belong to the types, and the
functions named `make` say which bound a candidate breaks. `Template.print` writes a
template in the syntax that `Template.parse` reads.
-/

set_option autoImplicit false

namespace UriTemplate

/-- Why a part of a template cannot be built. -/
inductive ModelError where
  | unknownOperator (symbol : Text)
  | maxLengthOutOfRange (length : Int)
  | emptyPath
  | noVariables
  deriving DecidableEq, Repr

/-- The wording of a model error. A length with too many digits is not shown, and what is said
is why. -/
def ModelError.message : ModelError → Text
  | .unknownOperator symbol =>
      Quoted.ofText symbol ++ (" is not a valid Operator" : Text)
  | .maxLengthOutOfRange length =>
      match Text.ofInt? length with
      | some digits => ("prefix length must be between 0 and 9999, got " : Text) ++ digits
      | none => Text.digitLimitWording []
  | .emptyPath => "variable path must not be empty"
  | .noVariables => "expression must reference at least one variable"

/-- The operator with a given symbol, or the complaint that there is none. -/
def Operator.make (symbol : Text) : Except ModelError Operator :=
  match Operator.ofSymbol? symbol with
  | some operator => .ok operator
  | none => .error (.unknownOperator symbol)

/-- How many characters of a value are used at most. -/
structure MaxLength where
  value : Nat
  value_le : value ≤ 9999
  deriving DecidableEq, Repr

/-- The maximal length with a given value. -/
def MaxLength.make (length : Int) : Except ModelError MaxLength :=
  if bounds : 0 ≤ length ∧ length ≤ 9999 then
    .ok ⟨length.toNat, by omega⟩
  else
    .error (.maxLengthOutOfRange length)

/-- What may follow the path of a variable. -/
inductive Modifier where
  | maxLength (length : MaxLength)
  | explode
  deriving DecidableEq, Repr

/-- The template syntax of a modifier. -/
def Modifier.print : Modifier → Text
  | .maxLength length => (':' : CodePoint) :: Text.ofNat length.value
  | .explode => ['*']

/-- A variable of an expression. -/
structure Variable where
  path : List Text
  modifier : Option Modifier
  path_ne_nil : path ≠ []
  deriving DecidableEq, Repr

namespace Variable

/-- The variable with a given path and modifier. -/
def make (path : List Text) (modifier : Option Modifier) : Except ModelError Variable :=
  if empty : path = [] then .error .emptyPath else .ok ⟨path, modifier, empty⟩

/-- The name that is looked up in the context. -/
def root (var : Variable) : Text :=
  var.path.head var.path_ne_nil

/-- The name under which a value is written. -/
def name (var : Variable) : Text :=
  var.path.getLast var.path_ne_nil

/-- Whether the parts of a value become items of their own. -/
def explodes (var : Variable) : Bool :=
  var.modifier == some .explode

/-- How many characters of a value are used at most, if there is a limit. -/
def maxLength? (var : Variable) : Option Nat :=
  match var.modifier with
  | some (.maxLength length) => some length.value
  | _ => none

/-- The template syntax of a variable. -/
def print (var : Variable) : Text :=
  (['.'] : Text).intercalate var.path ++ (var.modifier.elim [] Modifier.print)

end Variable

/-- An expression of a template. -/
structure Expression where
  operator : Operator
  vars : List Variable
  vars_ne_nil : vars ≠ []
  deriving DecidableEq, Repr

namespace Expression

/-- The expression with a given operator and given variables. -/
def make (operator : Operator) (vars : List Variable) : Except ModelError Expression :=
  if empty : vars = [] then .error .noVariables else .ok ⟨operator, vars, empty⟩

/-- The template syntax of an expression. -/
def print (expression : Expression) : Text :=
  ('\x7b' : CodePoint) :: expression.operator.symbol ++
    (([','] : Text).intercalate (expression.vars.map Variable.print) ++ (['\x7d'] : Text))

end Expression

/-- A part of a template. -/
inductive Part where
  | literal (text : Text)
  | separator
  | expression (body : Expression)
  deriving DecidableEq, Repr

namespace Part

/-- A code point of a literal after percent-encoding. The slash and the quote would not be
read back as literal text, so they are written as triplets too. -/
def printLiteralPoint (point : CodePoint) : Text :=
  if point = '/' then ['%', '2', 'F']
  else if point = '\'' then ['%', '2', '7']
  else [point]

/-- The template syntax of literal text. -/
def printLiteral (text : Text) : Text :=
  (Percent.escape .disallowedOnly text).flatMap printLiteralPoint

/-- The template syntax of a part. -/
def print : Part → Text
  | .literal text => printLiteral text
  | .separator => ['/']
  | .expression body => body.print

/-- The expression that a part is. -/
def expression? : Part → Option Expression
  | .expression body => some body
  | _ => none

end Part

/-- A template. -/
structure Template where
  parts : List Part
  deriving DecidableEq, Repr

namespace Template

/-- The expressions of a template in order. -/
def expressions (template : Template) : List Expression :=
  template.parts.filterMap Part.expression?

/-- The names that a template looks up in its context, each once, in the order of their
first appearance. -/
def variableNames (template : Template) : List Text :=
  (template.expressions.flatMap (·.vars)).foldl
    (fun names var => if names.contains var.root then names else names ++ [var.root]) []

/-- The names that a template looks up in its context, in the order of code points. -/
def sortedNames (template : Template) : List Text :=
  template.variableNames.mergeSort Text.precedes

/-- The template syntax of a template. -/
def print (template : Template) : Text :=
  template.parts.flatMap Part.print

end Template

end UriTemplate
