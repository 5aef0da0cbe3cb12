import UriTemplate.Datum
import UriTemplate.Index
import UriTemplate.Text.Quoted
import UriTemplate.Utf8

/-!
# The shape of a datum

The shape of a datum decides its kind, and gives the members of a list and the entries of a
mapping. Data may have been declared to be of a kind that their shape does not have, a range
may be longer than any length, and a number may have too many digits to be shown; then there
is a shape error instead.
-/

set_option autoImplicit false

namespace UriTemplate

/-- Why the shape of a datum does not serve. -/
inductive ShapeError where
  | tooLong
  | tooManyDigits
  | notIterable (datum : Datum)
  | noEntries (datum : Datum)
  | notCallable (datum : Datum)
  | missingFields (record : Text) (fields : List Text)
  deriving Repr

namespace ShapeError

/-- Words in a row, with `and` before the last. -/
def enumerate : List Text → Text
  | [] => []
  | [word] => word
  | [first, last] => first ++ (" and " : Text) ++ last
  | words =>
      ([',', ' '] : Text).intercalate words.dropLast ++ (", and " : Text) ++
        words.getLast?.getD []

/-- The wording for fields without which a record cannot be made. -/
def missingText (fields : List Text) : Text :=
  ("missing " : Text) ++ Text.ofNat fields.length ++ (" required positional argument" : Text) ++
    (if fields.length = 1 then "" else "s" : Text) ++ (": " : Text) ++
    enumerate (fields.map Quoted.ofText)

/-- A type name in quotes, cut behind a number of bytes. -/
def quotedName (size : Nat) (name : Text) : Text :=
  ('\'' : CodePoint) :: Utf8.abridge size name ++ (['\''] : Text)

/-- The wording of a shape error. A type name is cut behind 200 bytes where a datum cannot be
iterated over or called, and behind 50 where a part is missing; a record that is shown as
its fields and a record that cannot be made are named in full. -/
def message : ShapeError → Text
  | .tooLong => "Python int too large to convert to C ssize_t"
  | .tooManyDigits => Text.digitLimitWording []
  | .notIterable datum =>
      quotedName 200 datum.typeName ++ (" object is not iterable" : Text)
  | .noEntries (.recordType name _) =>
      ("type object " : Text) ++ quotedName 50 name ++ (" has no attribute 'items'" : Text)
  | .noEntries (.record .fieldList name _) =>
      Quoted.ofText name ++ (" object has no attribute 'items'" : Text)
  | .noEntries datum =>
      quotedName 50 datum.typeName ++ (" object has no attribute 'items'" : Text)
  | .notCallable datum =>
      quotedName 200 datum.typeName ++ (" object is not callable" : Text)
  | .missingFields record fields =>
      record ++ (".__init__() " : Text) ++ missingText fields

end ShapeError

namespace Datum

/-- The kind of a bare datum. Empty collections and mappings count as undefined. A range has
none if its members cannot be counted. -/
def classify : Datum → Except ShapeError Kind
  | .null => .ok .undefined
  | .collection _ members => .ok (if members.isEmpty then .undefined else .list)
  | .range start stop step =>
      let length := rangeLength start stop step
      if Index.bound ≤ length then .error .tooLong
      else .ok (if length = 0 then .undefined else .list)
  | .namedTuple _ fields => .ok (if fields.isEmpty then .undefined else .list)
  | .mapping entries => .ok (if entries.isEmpty then .undefined else .mapping)
  | _ => .ok .scalar

/-- The members of a datum that is used as a list. A mapping gives its keys, a text its
characters, a byte string its numbers, and a record shown as a list of fields its pairs of
name and value. -/
def members : Datum → Except ShapeError (List Datum)
  | .collection _ members => .ok members
  | .range start stop step => .ok (rangeMembers start stop step)
  | .namedTuple _ fields => .ok (fields.map (·.2))
  | .mapping entries => .ok (entries.map (·.1))
  | .text value => .ok (value.map fun point => .text [point])
  | .bytes value | .byteArray value => .ok (value.map fun byte => .int byte.toNat)
  | .record .fieldList _ fields =>
      .ok (fields.map fun field => .collection .tuple [.text field.name, field.value])
  | datum => .error (.notIterable datum)

/-- The part of a datum that bears the name under which a mapping gives its entries. -/
def entriesPart? : Datum → Option Datum
  | .record _ _ fields =>
      (fields.find? fun field => field.name == ("items" : Text)).map (·.value)
  | .namedTuple _ fields => (fields.find? fun field => field.1 == ("items" : Text)).map (·.2)
  | .member enumeration name value =>
      if name = ("items" : Text) then some (.member enumeration name value) else none
  | _ => none

/-- Why a datum that is no mapping gives no entries. It is asked for them by calling its
part of that name. Only record types can be called: that makes a record, which takes a
value for each field and is no list of entries. -/
def noEntriesError (datum : Datum) : ShapeError :=
  match datum.entriesPart? with
  | none => .noEntries datum
  | some (.recordType name []) => .notIterable (.record .call name [])
  | some (.recordType name fields) => .missingFields name fields
  | some part => .notCallable part

/-- The entries of a datum that is used as a mapping. A wrapped datum gives those of its
raw datum if it is of that kind itself, and none otherwise. -/
def entries : Datum → Except ShapeError (List (Datum × Datum))
  | .mapping entries => .ok entries
  | .wrapped raw .mapping => entries raw
  | .wrapped _ _ => .ok []
  | datum => .error datum.noEntriesError

end Datum

end UriTemplate
