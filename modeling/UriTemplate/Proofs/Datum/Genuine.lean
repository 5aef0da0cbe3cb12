import UriTemplate.Value
import UriTemplate.Proofs.Except

/-!
# Genuine data

Data may hold parts that were wrapped as values before, and such a part is of the kind that it
was given. Data are genuine if every wrapped part was made by `Value.of`, so that its kind is
the one that its shape has. What is looked up in genuine data is genuine again.
-/

set_option autoImplicit false

namespace UriTemplate

namespace Datum

/-- Data in which every wrapped part was made by `Value.of`. -/
inductive Genuine : Datum → Prop where
  | null : Genuine .null
  | bool (value : Bool) : Genuine (.bool value)
  | int (value : Int) : Genuine (.int value)
  | float (value : Binary64) : Genuine (.float value)
  | text (value : Text) : Genuine (.text value)
  | bytes (value : List UInt8) : Genuine (.bytes value)
  | byteArray (value : List UInt8) : Genuine (.byteArray value)
  | collection {shape : Collection} {members : List Datum} :
      (∀ member ∈ members, Genuine member) → Genuine (.collection shape members)
  | range (start stop step : Int) : Genuine (.range start stop step)
  | mapping {entries : List (Datum × Datum)} : (∀ entry ∈ entries, Genuine entry.1) →
      (∀ entry ∈ entries, Genuine entry.2) → Genuine (.mapping entries)
  | namedTuple {name : Text} {fields : List (Text × Datum)} :
      (∀ field ∈ fields, Genuine field.2) → Genuine (.namedTuple name fields)
  | record {style : RecordStyle} {name : Text} {fields : List (Field Datum)} :
      (∀ field ∈ fields, Genuine field.value) → Genuine (.record style name fields)
  | recordType (name : Text) (fields : List Text) : Genuine (.recordType name fields)
  | object (shown : Text) : Genuine (.object shown)
  | member {enumeration name : Text} {value : Datum} :
      Genuine value → Genuine (.member enumeration name value)
  | wrapped {original raw : Datum} {kind : Kind} :
      Genuine original → Value.of original = .ok ⟨raw, kind⟩ → Genuine (.wrapped raw kind)

@[simp] theorem bare_bare (datum : Datum) : datum.bare.bare = datum.bare := by
  fun_induction bare datum with
  | case1 _ _ value ih => exact ih
  | case2 raw _ ih => exact ih
  | case3 datum notMember notWrapped =>
      cases datum with
      | member enumeration name value => exact absurd rfl (notMember enumeration name value)
      | wrapped raw kind => exact absurd rfl (notWrapped raw kind)
      | _ => rfl

end Datum

namespace Value

variable {datum : Datum} {value : Value}

/-- A datum is a wrapped value, or the kind of its value is that of its shape. -/
theorem wrapped_or_of_eq (datum : Datum) :
    (∃ value : Value, datum = value.toDatum) ∨
      of datum = datum.bare.classify.map fun kind => ⟨datum.bare, kind⟩ := by
  cases datum with
  | wrapped raw kind => exact .inl ⟨⟨raw, kind⟩, rfl⟩
  | _ => exact .inr rfl

/-- A value that is bare and has the kind of its shape, with all its parts. -/
structure Genuine (value : Value) : Prop where
  raw : value.raw.Genuine
  bare : value.raw.bare = value.raw
  kind : value.raw.classify = .ok value.kind

theorem genuine_undefined : undefined.Genuine := ⟨.null, rfl, rfl⟩

end Value

namespace Datum.Genuine

variable {datum : Datum}

/-- What a genuine datum is without its wrappings is genuine, and a wrapped part is a genuine
value. -/
theorem bare_and_wrapped (genuine : datum.Genuine) :
    datum.bare.Genuine ∧ ∀ value : Value, datum = value.toDatum → value.Genuine := by
  induction genuine with
  | @wrapped original raw kind _ made ih =>
      have whole : Value.Genuine ⟨raw, kind⟩ := by
        rcases Value.wrapped_or_of_eq original with ⟨value, rfl⟩ | same
        · cases made
          exact ih.2 _ rfl
        · rw [same] at made
          rcases exceptMap_ok.mp made with ⟨_, classified, equal⟩
          cases equal
          exact ⟨ih.1, bare_bare original, classified⟩
      constructor
      · have unwrapped : (Datum.wrapped raw kind).bare = raw := whole.bare
        rw [unwrapped]
        exact whole.raw
      · intro value equal
        cases equal
        exact whole
  | member inner ih => exact ⟨ih.1, fun _ equal => by cases equal⟩
  | collection members _ => exact ⟨.collection members, fun _ equal => by cases equal⟩
  | mapping keys values _ _ => exact ⟨.mapping keys values, fun _ equal => by cases equal⟩
  | namedTuple fields _ => exact ⟨.namedTuple fields, fun _ equal => by cases equal⟩
  | record fields _ => exact ⟨.record fields, fun _ equal => by cases equal⟩
  | _ => exact ⟨by constructor, fun _ equal => by cases equal⟩

theorem bare (genuine : datum.Genuine) : datum.bare.Genuine :=
  genuine.bare_and_wrapped.1

theorem wrapped_value {value : Value} (genuine : value.toDatum.Genuine) : value.Genuine :=
  genuine.bare_and_wrapped.2 value rfl

/-- Genuine data are found under the names of genuine data. -/
theorem lookup (genuine : datum.Genuine) {name : Text} {part : Datum}
    (found : datum.lookup? name = some part) : part.Genuine := by
  cases genuine with
  | mapping keys values =>
      rcases Option.map_eq_some_iff.mp found with ⟨entry, first, rfl⟩
      exact values entry (List.mem_of_find?_eq_some first)
  | record fields =>
      simp only [lookup?] at found
      split at found
      next field first =>
        cases found
        exact fields field (List.mem_of_find?_eq_some first)
      next =>
        rcases Option.map_eq_some_iff.mp found with ⟨field, first, rfl⟩
        exact fields field (List.mem_of_find?_eq_some first)
  | namedTuple fields =>
      rcases Option.map_eq_some_iff.mp found with ⟨field, first, rfl⟩
      exact fields field (List.mem_of_find?_eq_some first)
  | @wrapped original raw kind inner made =>
      have genuine : (Value.toDatum ⟨raw, kind⟩).Genuine := .wrapped inner made
      have whole := genuine.wrapped_value
      simp only [lookup?] at found
      split at found
      next =>
        cases found
        exact whole.raw
      split at found
      next =>
        cases found
        exact .member (.text _)
      next => cases found
  | _ => cases found

end Datum.Genuine

namespace Value

variable {datum : Datum} {value : Value}

/-- The value of a genuine datum is the bare datum with the kind of its shape, even if it was
wrapped before. -/
theorem of_eq (genuine : datum.Genuine) :
    of datum = datum.bare.classify.map fun kind => ⟨datum.bare, kind⟩ := by
  rcases wrapped_or_of_eq datum with ⟨value, rfl⟩ | same
  · have whole := genuine.wrapped_value
    have unwrapped : value.toDatum.bare = value.raw := whole.bare
    rw [unwrapped, whole.kind]
    rfl
  · exact same

theorem raw_of (genuine : datum.Genuine) (made : of datum = .ok value) :
    value.raw = datum.bare := by
  rw [of_eq genuine] at made
  obtain ⟨kind, _, rfl⟩ := exceptMap_ok.mp made
  rfl

theorem genuine_of (genuine : datum.Genuine) (made : of datum = .ok value) : value.Genuine := by
  rw [of_eq genuine] at made
  rcases exceptMap_ok.mp made with ⟨kind, classified, rfl⟩
  exact ⟨genuine.bare, Datum.bare_bare datum, classified⟩

theorem Genuine.get (genuine : value.Genuine) {name : Text} {next : Value}
    (found : value.get name = .ok next) : next.Genuine := by
  simp only [Value.get] at found
  split at found
  next part inside => exact genuine_of (genuine.raw.lookup inside) found
  next =>
    cases found
    exact genuine_undefined

/-- A path through genuine data leads to a genuine value. -/
theorem Genuine.resolve (genuine : value.Genuine) {path : List Text} {result : Value}
    (found : value.resolve path = .ok result) : result.Genuine := by
  induction path generalizing value with
  | nil =>
      cases found
      exact genuine
  | cons segment rest ih =>
      rcases exceptBind_ok.mp found with ⟨next, there, found⟩
      have nextGenuine := genuine.get there
      split at found
      · exact ih nextGenuine found
      · cases found
        exact genuine_undefined

end Value

end UriTemplate
