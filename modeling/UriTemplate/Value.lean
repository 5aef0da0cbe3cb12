import UriTemplate.Datum.Shown

/-!
# Values

A value is a datum together with its kind. `Value.of` finds the kind of a datum; data that
were wrapped before keep the kind that they were given. Variables are resolved by looking
up one segment of their path after the other, and a miss on the way makes the variable
undefined.
-/

set_option autoImplicit false

namespace UriTemplate

/-- A datum together with its kind. -/
structure Value where
  raw : Datum
  kind : Kind
  deriving Repr

namespace Value

/-- The value of a missing datum. -/
def undefined : Value := ⟨.null, .undefined⟩

/-- A datum as a value. -/
def of : Datum → Except ShapeError Value
  | .wrapped raw kind => .ok ⟨raw, kind⟩
  | datum => datum.bare.classify.map fun kind => ⟨datum.bare, kind⟩

/-- A value as a datum. -/
def toDatum (value : Value) : Datum :=
  .wrapped value.raw value.kind

@[simp] theorem of_toDatum (value : Value) : of value.toDatum = .ok value := rfl

/-- Whether a value takes part in expansions. -/
def isDefined (value : Value) : Bool :=
  value.kind != .undefined

/-- Look up one name in a value. -/
def get (value : Value) (name : Text) : Except ShapeError Value :=
  match value.raw.lookup? name with
  | some datum => of datum
  | none => .ok undefined

/-- Follow a path from a value. -/
def resolve (value : Value) : List Text → Except ShapeError Value
  | [] => .ok value
  | segment :: rest => do
      let next ← value.get segment
      if next.isDefined then next.resolve rest else return undefined

/-- The segment of a path at which a look-up ends undefined. -/
def missingSegment? (value : Value) : List Text → Option Text
  | [] => none
  | segment :: rest =>
      match value.get segment with
      | .ok next => if next.isDefined then next.missingSegment? rest else some segment
      | .error _ => none

/-- The text of a value as a scalar. -/
def text (value : Value) : Except ShapeError Text :=
  value.raw.scalarText

/-- The members of a list, without the missing ones. -/
def elements (value : Value) : Except ShapeError (List Value) :=
  match value.kind with
  | .list => do
      let elements ← (← value.raw.members).mapM of
      return elements.filter fun element => !element.raw.isNull
  | _ => .ok []

/-- Make something of the key and the value of an entry, unless there is nothing in it. -/
def useEntry {α : Type} (use : Text → Value → Except ShapeError α) (entry : Datum × Datum) :
    Except ShapeError (Option α) := do
  let item ← of entry.2
  if item.raw.isNull then
    return none
  else
    let key ← entry.1.scalarText
    return some (← use key item)

/-- Make something of the entries of a mapping, without those that have no value. An entry is
used before the next one is looked at. -/
def mapItems {α : Type} (value : Value) (use : Text → Value → Except ShapeError α) :
    Except ShapeError (List α) :=
  match value.kind with
  | .mapping => do
      let results ← (← value.raw.entries).mapM (useEntry use)
      return results.filterMap id
  | _ => .ok []

/-- The entries of a mapping with the texts of their keys, without those that have no
value. -/
def items (value : Value) : Except ShapeError (List (Text × Value)) :=
  value.mapItems fun key item => .ok (key, item)

end Value

end UriTemplate
