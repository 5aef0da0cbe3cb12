import UriTemplate.Datum.Shown
import UriTemplate.Expansion
import UriTemplate.Template.Parser

/-!
# Debugging records

The library tells what it does in records of one level. The lexer tells when its stream is
drained, the parser what a template consists of, a look-up at which segment it ended, and
an expansion which expressions came to nothing. The records of an expansion stand in the
order in which things happen.
-/

set_option autoImplicit false

namespace UriTemplate.Log

/-- What a record is about. -/
inductive Source where
  | lexer
  | parser
  | values
  | expansion
  deriving DecidableEq, Repr

/-- A debugging record. -/
structure Record where
  source : Source
  message : Text
  deriving DecidableEq, Repr

/-- A token stream was drained. -/
def drained (length position : Nat) : Record where
  source := .lexer
  message :=
    ("Finished tokenizing template of length " : Text) ++ Text.ofNat length ++
      (" at position " : Text) ++ Text.ofNat position

/-- A template was parsed. -/
def parsed (template : Template) : Record where
  source := .parser
  message :=
    ("Parsed template into " : Text) ++ Text.ofNat template.parts.length ++
      (" parts, variables: " : Text) ++
      Datum.collectionText .list (template.variableNames.map Quoted.ofText)

/-- A look-up ended at a segment. -/
def undefinedSegment (segment : Text) : Record where
  source := .values
  message := ("Variable segment '" : Text) ++ segment ++ ("' is undefined" : Text)

/-- An expression came to nothing. -/
def expandedToNothing (expression : Expression) : Record where
  source := .expansion
  message := ("Expression " : Text) ++ expression.print ++ (" expanded to nothing" : Text)

/-- The records of the look-ups of variables, up to the first whose value does not have
the shape of its kind. -/
def ofLookups (operator : Operator) (data : Value) : List Variable → List Record
  | [] => []
  | var :: rest =>
      ((data.missingSegment? var.path).map undefinedSegment).toList ++
        match var.write operator data .empty with
        | .ok _ => ofLookups operator data rest
        | .error _ => []

/-- The records of the expansion of an expression. -/
def ofExpression (data : Value) (expression : Expression) : List Record :=
  ofLookups expression.operator data expression.vars ++
    match expression.expand data with
    | .ok [] => [expandedToNothing expression]
    | _ => []

/-- The records of the expansion of parts, up to the first that fails. -/
def ofParts (data : Value) : List Part → List Record
  | [] => []
  | part :: rest =>
      (part.expression?.map (ofExpression data)).getD [] ++
        match part.expand data with
        | .ok _ => ofParts data rest
        | .error _ => []

/-- The records of reading a template and expanding it with some data. -/
def ofExpand (template : Text) (context : Datum) : List Record :=
  match Template.parse template, Value.of context with
  | .error _, _ => []
  | .ok template, .error _ => [parsed template]
  | .ok template, .ok data => parsed template :: ofParts data template.parts

end UriTemplate.Log
