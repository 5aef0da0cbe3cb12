import UriTemplate.Template
import UriTemplate.Value

/-!
# Expansion

An expression is expanded by writing the items of its variables one after the other. The
writer counts the items that it has written, for the count decides whether a separator goes
before the next one, and whether anything is written at all: without an item the expansion
is empty, and the operator leaves no trace either. Undefined variables give no item.
-/

set_option autoImplicit false

namespace UriTemplate

/-- What has been written of an expression, and how many items that was. -/
structure ItemWriter where
  written : Text
  count : Nat
  deriving DecidableEq, Repr

namespace ItemWriter

/-- A writer that has written nothing. -/
def empty : ItemWriter := ⟨[], 0⟩

/-- The payload of an item, with its name in front if the operator asks for names. -/
def itemText (operator : Operator) (name payload : Text) : Text :=
  if operator.named then
    name ++ (if payload.isEmpty then operator.ifEmpty else ['=']) ++ payload
  else
    payload

/-- Write an item. -/
def write (operator : Operator) (writer : ItemWriter) (name payload : Text) : ItemWriter where
  written :=
    writer.written ++ (if 0 < writer.count then operator.separator else []) ++
      itemText operator name payload
  count := writer.count + 1

/-- What an expression expands to once all its items are written. -/
def finish (operator : Operator) (writer : ItemWriter) : Text :=
  if writer.count = 0 then [] else operator.first ++ writer.written

end ItemWriter

/-- A text cut to a maximal length, if there is one. -/
def Text.cut (limit : Option Nat) (text : Text) : Text :=
  limit.elim text fun length => text.take length

namespace Value

/-- A value as it is written under an operator: cut to a length, then encoded. -/
def format (operator : Operator) (limit : Option Nat) (value : Value) :
    Except ShapeError Text :=
  value.text.map fun text => Percent.escape operator.mask (text.cut limit)

/-- The entries of a mapping as they are written under an operator. -/
def formatItems (operator : Operator) (value : Value) :
    Except ShapeError (List (Text × Text)) :=
  value.mapItems fun key item =>
    (item.format operator none).map fun text => (Percent.escape operator.mask key, text)

end Value

namespace Variable

/-- Write the members of a list: each as an item of its own, or all as one item. -/
def writeList (operator : Operator) (var : Variable) (elements : List Value)
    (writer : ItemWriter) : Except ShapeError ItemWriter :=
  if elements.isEmpty then
    .ok writer
  else if var.explodes then
    elements.foldlM (fun writer element =>
      (element.format operator none).map (writer.write operator var.name)) writer
  else
    (elements.mapM (Value.format operator var.maxLength?)).map fun texts =>
      writer.write operator var.name (([','] : Text).intercalate texts)

/-- Write the entries of a mapping: each as an item of its own, or all as one item. -/
def writeMapping (operator : Operator) (var : Variable) (entries : List (Text × Text))
    (writer : ItemWriter) : ItemWriter :=
  if entries.isEmpty then
    writer
  else if var.explodes then
    entries.foldl (fun writer entry =>
      if operator.named then writer.write operator entry.1 entry.2
      else writer.write operator var.name (entry.1 ++ ('=' : CodePoint) :: entry.2)) writer
  else
    writer.write operator var.name
      (([','] : Text).intercalate (entries.flatMap fun entry => [entry.1, entry.2]))

/-- Write what a variable finds in the data. -/
def write (operator : Operator) (data : Value) (writer : ItemWriter) (var : Variable) :
    Except ShapeError ItemWriter := do
  let value ← data.resolve var.path
  match value.kind with
  | .undefined => return writer
  | .list => var.writeList operator (← value.elements) writer
  | .mapping => return var.writeMapping operator (← value.formatItems operator) writer
  | .scalar =>
      return writer.write operator var.name (← value.format operator var.maxLength?)

end Variable

/-- What an expression expands to. -/
def Expression.expand (expression : Expression) (data : Value) :
    Except ShapeError Text :=
  (expression.vars.foldlM (Variable.write expression.operator data) .empty).map
    (ItemWriter.finish expression.operator)

/-- What a part of a template expands to. -/
def Part.expand (data : Value) : Part → Except ShapeError Text
  | .literal text => .ok text
  | .separator => .ok ['/']
  | .expression body => body.expand data

/-- What a template expands to: the expansions of its parts in order. -/
def Template.expand (template : Template) (data : Value) : Except ShapeError Text :=
  (template.parts.mapM (Part.expand data)).map List.flatten

end UriTemplate
