import UriTemplate.Binary64

/-!
# Context data

The data that a template is expanded with come from many kinds of programs, so their type
is a closed universe of shapes: scalars, collections, mappings, records with named fields,
members of enumerations, and data that were already wrapped as values. Enumeration members
and wrapped data are transparent: `bare` takes them off.
-/

set_option autoImplicit false

namespace UriTemplate

/-- What a datum counts as in an expansion. -/
inductive Kind where
  | undefined
  | scalar
  | list
  | mapping
  deriving DecidableEq, Repr

/-- The collections whose members are given one by one. -/
inductive Collection where
  | list
  | tuple
  | deque
  | set
  | frozenSet
  | keys
  deriving DecidableEq, Repr

/-- How a record is shown where a text is wanted: as a call of its constructor, or as its
bare list of fields. -/
inductive RecordStyle where
  | call
  | fieldList
  deriving DecidableEq, Repr

/-- A field of a record. It is found by its name or by its alternate name. -/
structure Field (α : Type) where
  name : Text
  alternate : Option Text
  value : α
  deriving Repr

/-- Context data. -/
inductive Datum where
  | null
  | bool (value : Bool)
  | int (value : Int)
  | float (value : Binary64)
  | text (value : Text)
  | bytes (value : List UInt8)
  | byteArray (value : List UInt8)
  | collection (shape : Collection) (members : List Datum)
  | range (start stop step : Int)
  | mapping (entries : List (Datum × Datum))
  | namedTuple (name : Text) (fields : List (Text × Datum))
  | record (style : RecordStyle) (name : Text) (fields : List (Field Datum))
  | recordType (name : Text) (fields : List Text)
  | object (shown : Text)
  | member (enumeration name : Text) (value : Datum)
  | wrapped (raw : Datum) (kind : Kind)
  deriving Repr

/-- The name of a kind. -/
def Kind.name : Kind → Text
  | .undefined => "undefined"
  | .scalar => "scalar"
  | .list => "list"
  | .mapping => "mapping"

/-- The name of a kind as a member of the enumeration of kinds. -/
def Kind.memberName : Kind → Text
  | .undefined => "UNDEFINED"
  | .scalar => "SCALAR"
  | .list => "LIST"
  | .mapping => "MAPPING"

namespace Datum

/-- The name of the enumeration of kinds. -/
def kindEnumeration : Text := "ValueKind"

/-- A kind as a datum. -/
def ofKind (kind : Kind) : Datum :=
  .member kindEnumeration kind.memberName (.text kind.name)

/-- A datum without the enumeration members and wrappings around it. -/
def bare : Datum → Datum
  | .member _ _ value => bare value
  | .wrapped raw _ => bare raw
  | datum => datum

/-- Whether a datum is the missing value itself. -/
def isNull : Datum → Bool
  | .null => true
  | _ => false

/-- The number of members of a range. -/
def rangeLength (start stop step : Int) : Nat :=
  if 0 < step then ((stop - start + step - 1) / step).toNat
  else ((start - stop - step - 1) / -step).toNat

/-- The members of a range. -/
def rangeMembers (start stop step : Int) : List Datum :=
  (List.range (rangeLength start stop step)).map fun (index : Nat) =>
    .int (start + step * index)

/-- Whether a datum is a given text. -/
def isText (text : Text) : Datum → Bool
  | .text value => value == text
  | _ => false

/-- Look up a name in a datum: a text key of a mapping, a field of a record by its name or
else by its alternate name, a field of a named tuple, or a part of a wrapping. -/
def lookup? (name : Text) : Datum → Option Datum
  | .mapping entries => (entries.find? fun entry => entry.1.isText name).map (·.2)
  | .record _ _ fields =>
      match fields.find? fun field => field.name == name with
      | some field => some field.value
      | none => (fields.find? fun field => field.alternate == some name).map (·.value)
  | .namedTuple _ fields => (fields.find? fun field => field.1 == name).map (·.2)
  | .wrapped raw kind =>
      if name = ("raw" : Text) then some raw
      else if name = ("kind" : Text) then some (ofKind kind)
      else none
  | _ => none

/-- The name of the type of a datum, for messages. -/
def typeName : Datum → Text
  | .null => "NoneType"
  | .bool _ => "bool"
  | .int _ => "int"
  | .float _ => "float"
  | .text _ => "str"
  | .bytes _ => "bytes"
  | .byteArray _ => "bytearray"
  | .collection .list _ => "list"
  | .collection .tuple _ => "tuple"
  | .collection .deque _ => "collections.deque"
  | .collection .set _ => "set"
  | .collection .frozenSet _ => "frozenset"
  | .collection .keys _ => "dict_keys"
  | .range .. => "range"
  | .mapping _ => "dict"
  | .namedTuple name _ => name
  | .record _ name _ => name
  | .recordType _ _ => "type"
  | .object _ => "object"
  | .member enumeration _ _ => enumeration
  | .wrapped _ _ => "Value"

end Datum

end UriTemplate
