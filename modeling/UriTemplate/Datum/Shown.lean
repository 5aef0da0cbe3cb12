import UriTemplate.Binary64.Shortest
import UriTemplate.Datum.Shape

/-!
# The text of a datum

A datum has two texts. `literal` is how it is written inside a collection or a record, with
texts quoted. `scalarText` is what it contributes to an expansion on its own: truth values
in lowercase, texts as they are, byte strings decoded, and all else as `shown` has it. A
datum with a number of too many digits in it has no text.
-/

set_option autoImplicit false

namespace UriTemplate.Datum

/-- Texts between an opening and a closing one, with a comma and a blank between them. -/
def enclose (opening closing : Text) (texts : List Text) : Text :=
  opening ++ ([',', ' '] : Text).intercalate texts ++ closing

/-- The way a collection encloses its members. A tuple of one member keeps a comma, and
empty sets are written as calls. -/
def collectionText (shape : Collection) (members : List Text) : Text :=
  match shape with
  | .list => enclose "[" "]" members
  | .tuple => enclose "(" (if members.length = 1 then ",)" else ")") members
  | .deque => enclose "deque([" "])" members
  | .set => if members.isEmpty then "set()" else enclose "\x7b" "\x7d" members
  | .frozenSet =>
      if members.isEmpty then "frozenset()" else enclose "frozenset(\x7b" "\x7d)" members
  | .keys => enclose "dict_keys([" "])" members

/-- A call of a constructor with named arguments. -/
def callText (name : Text) (arguments : List Text) : Text :=
  name ++ enclose "(" ")" arguments

/-- The member of an enumeration with the literal of its value. -/
def memberText (enumeration name value : Text) : Text :=
  enclose "<" ">" [enumeration ++ ('.' : CodePoint) :: name ++ (':' : CodePoint) :: ' ' :: value]

/-- The literal of a kind. -/
def kindText (kind : Kind) : Text :=
  memberText kindEnumeration kind.memberName (Quoted.ofText kind.name)

/-- A number in base ten. -/
def numeral (number : Int) : Except ShapeError Text :=
  match Text.ofInt? number with
  | some digits => .ok digits
  | none => .error .tooManyDigits

/-- The numbers that a range is shown with. A step of one goes without saying. -/
def rangeBounds (start stop step : Int) : List Int :=
  if step = 1 then [start, stop] else [start, stop, step]

/-- A value under a name. -/
def argumentText (name value : Text) : Text :=
  name ++ ('=' : CodePoint) :: value

mutual

/-- How a datum is written inside another one. -/
def literal : Datum → Except ShapeError Text
  | .null => .ok "None"
  | .bool value => .ok (if value then "True" else "False")
  | .int value => numeral value
  | .float value => .ok value.toText
  | .text value => .ok (Quoted.ofText value)
  | .bytes value => .ok (Quoted.ofBytes value)
  | .byteArray value => .ok (Quoted.ofByteArray value)
  | .collection shape members => (literals members).map (collectionText shape)
  | .range start stop step =>
      ((rangeBounds start stop step).mapM numeral).map (callText "range")
  | .mapping entries => (entryLiterals entries).map (enclose "\x7b" "\x7d")
  | .namedTuple name fields => (namedLiterals fields).map (callText name)
  | .record _ name fields => (fieldLiterals fields).map (callText name)
  | .recordType name _ => .ok name
  | .object shown => .ok shown
  | .member enumeration name value => (literal value).map (memberText enumeration name)
  | .wrapped raw kind =>
      (literal raw).map fun text =>
        callText "Value" [argumentText "raw" text, argumentText "kind" (kindText kind)]

/-- The literals of some data. -/
def literals : List Datum → Except ShapeError (List Text)
  | [] => .ok []
  | datum :: rest => do
      let text ← literal datum
      return text :: (← literals rest)

/-- The entries of a mapping, each with a colon between its literals. -/
def entryLiterals : List (Datum × Datum) → Except ShapeError (List Text)
  | [] => .ok []
  | (key, value) :: rest => do
      let keyText ← literal key
      let valueText ← literal value
      return (keyText ++ (':' : CodePoint) :: ' ' :: valueText) :: (← entryLiterals rest)

/-- The fields of a named tuple as named arguments. -/
def namedLiterals : List (Text × Datum) → Except ShapeError (List Text)
  | [] => .ok []
  | (name, value) :: rest => do
      let text ← literal value
      return argumentText name text :: (← namedLiterals rest)

/-- The fields of a record as named arguments. -/
def fieldLiterals : List (Field Datum) → Except ShapeError (List Text)
  | [] => .ok []
  | ⟨name, _, value⟩ :: rest => do
      let text ← literal value
      return argumentText name text :: (← fieldLiterals rest)

end

/-- A datum on its own: a text or an object as it is, a record in its style, and all else
as its literal. -/
def shown : Datum → Except ShapeError Text
  | .text value => .ok value
  | .record .fieldList _ fields => (fieldLiterals fields).map ([' '] : Text).intercalate
  | datum => literal datum

/-- What a datum contributes to an expansion as a scalar. -/
def scalarText (datum : Datum) : Except ShapeError Text :=
  match datum.bare with
  | .bool value => .ok (if value then "true" else "false")
  | .text value => .ok value
  | .bytes value | .byteArray value => .ok (Utf8.decode .strayBytes value)
  | other => shown other

end UriTemplate.Datum
