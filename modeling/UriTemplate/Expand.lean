import UriTemplate.Sink
import UriTemplate.Template.Parser

/-!
# Expanding the text of a template

Reading a template and expanding it in one go. A template can be read once and expanded any
number of times with `Template.parse` and `Template.expand`; the functions here are for the
case that it is expanded only once.
-/

set_option autoImplicit false

namespace UriTemplate

/-- Why the text of a template is not expanded. -/
inductive ExpandError where
  | template (failure : Parser.Failure)
  | expansion (error : ExpansionError)
  deriving Repr

/-- The wording of an error. -/
def ExpandError.message : ExpandError → Text
  | .template failure => failure.message
  | .expansion error => error.message

/-- An error in the shape of the data. -/
def ExpandError.ofShape (error : ShapeError) : ExpandError :=
  .expansion (.shape error)

/-- Read a template and expand it with some data. -/
def expand (template : Text) (context : Datum) : Except ExpandError Text := do
  let parsed ← (Template.parse template).mapError ExpandError.template
  let data ← (Value.of context).mapError ExpandError.ofShape
  (parsed.expand data).mapError ExpandError.ofShape

/-- Read a template, expand it with some data, and write it to a sink part by part. Nothing
is written unless the whole template can be read. -/
def expandTo (template : Text) (context : Datum) (sink : Sink) :
    Except ExpandError Text × Sink :=
  match Template.parse template, Value.of context with
  | .error failure, _ => (.error (.template failure), sink)
  | .ok _, .error error => (.error (.ofShape error), sink)
  | .ok parsed, .ok data =>
      let (result, sink) := parsed.expandTo data sink
      (result.mapError .expansion, sink)

end UriTemplate
