import UriTemplate.Template.Failure
import UriTemplate.Token.Lexer

/-!
# The parser

The parser reads the tokens of a template one at a time. Its state says what may come next,
and its working fields hold the parts that are finished, the pieces of literal text that
are not yet joined, and the expression and variable that are being read. A step may fail
half way, and what the fields are then is part of its outcome.
-/

set_option autoImplicit false

namespace UriTemplate

/-- The working fields of the parser. -/
structure Parser where
  template : Text
  parts : List Part
  literal : List Text
  operator : Operator
  vars : List Variable
  path : List Text
  modifier : Option Modifier
  lengthDigits : Nat
  deriving DecidableEq, Repr

namespace Parser

/-- The working fields before the first token of a template. -/
def start (template : Text) : Parser where
  template := template
  parts := []
  literal := []
  operator := .simple
  vars := []
  path := []
  modifier := none
  lengthDigits := 0

/-- A step of the parser: it changes the working fields, and it may fail. Changes made
before a failure remain. -/
abbrev Step (α : Type) := ExceptT Failure (StateM Parser) α

namespace Step

variable {α β : Type}

/-- The outcome of a step and the fields behind it. -/
def outcome (step : Step α) (parser : Parser) : Except Failure α × Parser :=
  step.run.run parser

@[simp] theorem outcome_pure (result : α) (parser : Parser) :
    (pure result : Step α).outcome parser = (.ok result, parser) := rfl

@[simp] theorem outcome_throw (failure : Failure) (parser : Parser) :
    (throw failure : Step α).outcome parser = (.error failure, parser) := rfl

@[simp] theorem outcome_get (parser : Parser) :
    (get : Step Parser).outcome parser = (.ok parser, parser) := rfl

@[simp] theorem outcome_set (fields parser : Parser) :
    (set fields : Step Unit).outcome parser = (.ok (), fields) := rfl

@[simp] theorem outcome_modify (change : Parser → Parser) (parser : Parser) :
    (modify change : Step Unit).outcome parser = (.ok (), change parser) := rfl

/-- A sequence of steps goes on from the fields behind the first, unless that fails. -/
theorem outcome_bind (step : Step α) (next : α → Step β) (parser : Parser) :
    (step >>= next).outcome parser = match step.outcome parser with
      | (.ok result, fields) => (next result).outcome fields
      | (.error failure, fields) => (.error failure, fields) := by
  simp only [outcome, bind, ExceptT.bind, ExceptT.mk, ExceptT.run, StateT.bind, StateT.run,
    ExceptT.bindCont]
  rcases step parser with ⟨result | result, fields⟩ <;> rfl

end Step

/-- Take over what the model makes of a candidate. -/
def build {α : Type} : Except ModelError α → Step α
  | .ok result => pure result
  | .error error => throw (.model error)

theorem outcome_build {α : Type} (candidate : Except ModelError α) (parser : Parser) :
    (build candidate).outcome parser = (candidate.mapError .model, parser) := by
  cases candidate <;> rfl

/-- Fail with a complaint about a position of the template. -/
def reject {α : Type} (cause : ParseError.Cause) (position : Int) : Step α := do
  let parser ← get
  throw (.rejected ⟨cause, position, parser.template⟩)

/-- Join the pending pieces of literal text to one part. Bytes from percent triplets that
together spell characters become those characters. -/
def flushLiteral : Step Unit := do
  let parser ← get
  if parser.literal.isEmpty then
    pure ()
  else
    let joined := parser.literal.flatten
    match Utf8.unencodable? joined with
    | some stretch => throw (.unencodable stretch)
    | none =>
        set { parser with
          parts := parser.parts ++ [Part.literal (Utf8.rejoin joined)], literal := [] }

/-- Begin a variable. -/
def startVariable : Step Unit :=
  modify fun parser => { parser with path := [], modifier := none, lengthDigits := 0 }

/-- Finish the variable that is being read. -/
def closeVariable : Step Unit := do
  let parser ← get
  let var ← build (Variable.make parser.path parser.modifier)
  modify fun parser => { parser with vars := parser.vars ++ [var] }
  startVariable

/-- Finish a path separator. Separators in a row are one. -/
def closeSeparator : Step Unit :=
  modify fun parser =>
    if parser.parts.getLast? = some .separator then parser
    else { parser with parts := parser.parts ++ [.separator] }

/-- Finish the expression that is being read. -/
def closeExpression : Step Unit := do
  closeVariable
  let parser ← get
  let expression ← build (Expression.make parser.operator parser.vars)
  modify fun parser => { parser with parts := parser.parts ++ [.expression expression] }

/-- A token outside expressions. -/
def handleRaw (token : Token) : Step State :=
  match token.type with
  | .raw => do
      modify fun parser => { parser with literal := parser.literal ++ [token.value] }
      return .raw
  | .separator => do
      flushLiteral
      closeSeparator
      return .raw
  | .leftBrace => do
      flushLiteral
      modify fun parser => { parser with operator := .simple, vars := [] }
      startVariable
      return .maybeOperator
  | _ => throw (.undefinedState .raw token)

/-- A token where a name has to stand. -/
def handleExpression (token : Token) : Step State :=
  match token.type with
  | .name => do
      modify fun parser => { parser with path := parser.path ++ [token.value] }
      return .afterVariable
  | .comma | .dot | .rightBrace => reject .expectedVariable token.position
  | _ => throw (.undefinedState .expression token)

/-- The token behind an opening brace. -/
def handleMaybeOperator (token : Token) : Step State :=
  match token.type with
  | .operator => do
      let operator ← build (Operator.make token.value)
      modify fun parser => { parser with operator := operator }
      return .expression
  | _ => handleExpression token

/-- A name behind a variable. It is no name if it goes on with the digits of a length. -/
def handleExtraName (token : Token) : Step State := do
  let parser ← get
  match parser.modifier, token.value with
  | some (.maxLength _), [] => throw .emptyName
  | some (.maxLength _), point :: _ =>
      if point.isAnyDigit then
        reject .lengthTooGreat (token.position - parser.lengthDigits)
      else
        reject .unexpectedAfterVariable token.position
  | _, _ => reject .unexpectedAfterVariable token.position

/-- A token behind a variable. -/
def handleAfterVariable (token : Token) : Step State := do
  let parser ← get
  match token.type with
  | .rightBrace => do
      closeExpression
      return .raw
  | .dot =>
      if parser.modifier.isSome then reject .unexpectedAfterVariable token.position
      else return .expression
  | .comma => do
      closeVariable
      return .expression
  | .colon =>
      if parser.modifier.isSome then reject .doubleModifier token.position
      else return .length
  | .explode =>
      if parser.modifier.isSome then
        reject .doubleModifier token.position
      else do
        modify fun parser => { parser with modifier := some .explode }
        return .afterVariable
  | .name => handleExtraName token
  | _ => throw (.undefinedState .afterVariable token)

/-- The token behind a colon. -/
def handleLength (token : Token) : Step State :=
  match token.type with
  | .length =>
      match Text.readInt token.value with
      | .error error => throw (.badNumber token.value error)
      | .ok number => do
          let length ← build (MaxLength.make number)
          modify fun parser => { parser with modifier := some (.maxLength length) }
          modify fun parser => { parser with lengthDigits := token.value.length }
          return .afterVariable
  | _ => throw (.undefinedState .length token)

/-- One step of the parser. -/
def handle : State → Token → Step State
  | .raw, token => handleRaw token
  | .maybeOperator, token => handleMaybeOperator token
  | .expression, token => handleExpression token
  | .afterVariable, token => handleAfterVariable token
  | .length, token => handleLength token

/-- Read tokens up to the end of the template or the first failure. -/
def run : State → List Token → Step Template
  | state, [] => throw (.endOfTokens state)
  | state, token :: rest =>
      if token.type = .error then
        reject (.lexical token.value) token.position
      else if token.type = .endOfInput ∧ state = .raw then do
        flushLiteral
        let parser ← get
        return ⟨parser.parts⟩
      else do
        let next ← handle state token
        run next rest

/-- Read a template. -/
def parse (template : Text) : Step Template := do
  set (start template)
  run .raw (tokenize template)

end Parser

namespace Template

/-- Read a template. -/
def parse (template : Text) : Except Parser.Failure Template :=
  ((Parser.parse template).outcome (Parser.start template)).1

end Template

end UriTemplate
