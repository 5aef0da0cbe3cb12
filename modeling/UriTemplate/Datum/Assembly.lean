import UriTemplate.Datum.Shape

/-!
# Data from their parts

Mappings, sets and ranges are put together from parts. Two keys of a mapping are the same
if they are equal as data: numbers by their value whatever their type, tuples member by
member whether these have names or not, ranges by their members, and texts and byte strings
by content. Objects, record types and enumeration members are no other's equal. A repeated
key keeps its first place and takes its last value. Data that can change in place cannot be
keys, nor can a tuple that holds some.
-/

set_option autoImplicit false

namespace UriTemplate

/-- Why data cannot be put together from their parts. -/
inductive AssemblyError where
  | unhashable (datum : Datum)
  | zeroStep
  deriving Repr

/-- The wording of an assembly error. -/
def AssemblyError.message : AssemblyError → Text
  | .unhashable datum =>
      ("unhashable type: " : Text) ++ ShapeError.quotedName 200 datum.typeName
  | .zeroStep => "range() arg 3 must not be zero"

namespace Datum

/-- The number that a truth value or an integer is. -/
def wholeNumber? : Datum → Option Int
  | .bool value => some (if value then 1 else 0)
  | .int value => some value
  | _ => none

/-- Whether two numbers are equal. -/
def sameNumber (left right : Datum) : Bool :=
  match left.wholeNumber?, right.wholeNumber? with
  | some left, some right => left == right
  | some whole, none => match right with
      | .float value => value.equalsInt whole
      | _ => false
  | none, some whole => match left with
      | .float value => value.equalsInt whole
      | _ => false
  | none, none => match left, right with
      | .float left, .float right => left.equals right
      | _, _ => false

/-- The members of a tuple, named or not. -/
def tupleMembers? : Datum → Option (List Datum)
  | .collection .tuple members => some members
  | .namedTuple _ fields => some (fields.map (·.2))
  | _ => none

/-- Whether two ranges have the same members. -/
def sameRange (left right : Int × Int × Int) : Bool :=
  let length := rangeLength left.1 left.2.1 left.2.2
  length == rangeLength right.1 right.2.1 right.2.2 &&
    (length == 0 || left.1 == right.1 && (length == 1 || left.2.2 == right.2.2))

mutual

/-- Whether two data are the same key. -/
def sameKey : Datum → Datum → Bool
  | .null, .null => true
  | .text left, .text right => left == right
  | .bytes left, .bytes right => left == right
  | .collection .tuple left, right => right.tupleMembers?.any (sameKeys left)
  | .namedTuple _ left, right => right.tupleMembers?.any (sameFields left)
  | .collection .frozenSet left, .collection .frozenSet right => sameKeys left right
  | .range start stop step, .range start' stop' step' =>
      sameRange (start, stop, step) (start', stop', step')
  | .wrapped raw kind, .wrapped raw' kind' => kind == kind' && sameKey raw raw'
  | left, right => sameNumber left right

/-- Whether two lists hold the same keys in the same order. -/
def sameKeys : List Datum → List Datum → Bool
  | [], [] => true
  | left :: lefts, right :: rights => sameKey left right && sameKeys lefts rights
  | _, _ => false

/-- Whether named fields and a list hold the same keys in the same order. -/
def sameFields : List (Text × Datum) → List Datum → Bool
  | [], [] => true
  | (_, left) :: lefts, right :: rights => sameKey left right && sameFields lefts rights
  | _, _ => false

end

mutual

/-- The first part of a datum that can change in place. -/
def mutablePart? : Datum → Option Datum
  | .byteArray value => some (.byteArray value)
  | .collection .tuple members => mutableMember? members
  | .collection .frozenSet _ => none
  | .collection shape members => some (.collection shape members)
  | .mapping entries => some (.mapping entries)
  | .namedTuple _ fields => mutableField? fields
  | .record style name fields => some (.record style name fields)
  | .wrapped raw _ => mutablePart? raw
  | _ => none

/-- The first part of some data that can change in place. -/
def mutableMember? : List Datum → Option Datum
  | [] => none
  | datum :: rest => (mutablePart? datum).or (mutableMember? rest)

/-- The first part of named fields that can change in place. -/
def mutableField? : List (Text × Datum) → Option Datum
  | [] => none
  | (_, datum) :: rest => (mutablePart? datum).or (mutableField? rest)

end

/-- A datum as a key. -/
def asKey (datum : Datum) : Except AssemblyError Datum :=
  match datum.mutablePart? with
  | some part => .error (.unhashable part)
  | none => .ok datum

/-- Put a value under a key: in place if the key is there, and else at the end. -/
def insertEntry (key value : Datum) : List (Datum × Datum) → List (Datum × Datum)
  | [] => [(key, value)]
  | entry :: rest =>
      if entry.1.sameKey key then (entry.1, value) :: rest
      else entry :: insertEntry key value rest

/-- The mapping with given entries, the later ones of a key winning. -/
def ofEntries (entries : List (Datum × Datum)) : Except AssemblyError Datum := do
  let kept ← entries.foldlM (fun kept entry => do
    return insertEntry (← entry.1.asKey) entry.2 kept) []
  return .mapping kept

/-- The collection of given members, each kept at its first place only. -/
def ofDistinct (shape : Collection) (members : List Datum) : Except AssemblyError Datum := do
  let kept ← members.foldlM (fun kept member => do
    let key ← member.asKey
    return if kept.any fun other => other.sameKey key then kept else kept ++ [key]) []
  return .collection shape kept

/-- The range from a first number on up to a limit that it does not reach. -/
def ofRange (start stop step : Int) : Except AssemblyError Datum :=
  if step = 0 then .error .zeroStep else .ok (.range start stop step)

end Datum

end UriTemplate
