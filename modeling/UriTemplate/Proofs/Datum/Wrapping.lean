import UriTemplate.Proofs.Datum.Genuine

/-!
# Data and what wraps them

An enumeration member wraps its value, and a value that `Value.of` makes wraps the datum that it is
made of. Whatever is wrapped in this way has the same value as before, as long as it is no value
whose kind was forced upon it: an enumeration member around such a value hides the forced kind.
-/

set_option autoImplicit false

namespace UriTemplate.Datum

/-- What wraps a datum: the datum itself, an enumeration member of what wraps it, and the value of
what wraps it. -/
inductive WrappedBy (datum : Datum) : Datum → Prop where
  | self : WrappedBy datum datum
  | member {enumeration name : Text} {inner : Datum} :
      WrappedBy datum inner → WrappedBy datum (.member enumeration name inner)
  | value {inner : Datum} {value : Value} :
      WrappedBy datum inner → Value.of inner = .ok value → WrappedBy datum value.toDatum

/-- If a datum is a value, it is bare and has the kind of its shape. -/
def Unforced (datum : Datum) : Prop :=
  ∀ value : Value, datum = value.toDatum →
    value.raw.bare = value.raw ∧ value.raw.classify = .ok value.kind

variable {datum wrapper : Datum} {value : Value}

theorem unforced_member (enumeration name : Text) (datum : Datum) :
    (member enumeration name datum).Unforced := by
  intro value same
  cases same

namespace Unforced

/-- Without a forced kind the kind is that of the shape. -/
theorem of_eq (unforced : datum.Unforced) :
    Value.of datum = datum.bare.classify.map fun kind => ⟨datum.bare, kind⟩ := by
  rcases Value.wrapped_or_of_eq datum with ⟨value, rfl⟩ | same
  · rcases unforced value rfl with ⟨bare, classified⟩
    have unwrapped : value.toDatum.bare = value.raw := bare
    rw [unwrapped, classified]
    rfl
  · exact same

/-- The value of a datum has no forced kind either, and nothing else is in it. -/
theorem made (unforced : datum.Unforced) (found : Value.of datum = .ok value) :
    value.toDatum.Unforced ∧ value.toDatum.bare = datum.bare := by
  rw [unforced.of_eq] at found
  rcases exceptMap_ok.mp found with ⟨kind, classified, rfl⟩
  refine ⟨?_, bare_bare datum⟩
  rintro ⟨raw, other⟩ same
  cases same
  exact ⟨bare_bare datum, classified⟩

end Unforced

/-- Wrapping forces no kind and adds nothing, by induction on the wrappings. -/
theorem WrappedBy.unforced_and_bare (wrapped : datum.WrappedBy wrapper)
    (unforced : datum.Unforced) : wrapper.Unforced ∧ wrapper.bare = datum.bare := by
  induction wrapped with
  | self => exact ⟨unforced, rfl⟩
  | member _ ih => exact ⟨unforced_member _ _ _, ih.2⟩
  | value _ found ih =>
      rcases ih.1.made found with ⟨unforcedThere, bareThere⟩
      exact ⟨unforcedThere, bareThere.trans ih.2⟩

/-- What wraps a datum has the same value. -/
theorem WrappedBy.of_eq (wrapped : datum.WrappedBy wrapper) (unforced : datum.Unforced) :
    Value.of wrapper = Value.of datum := by
  rcases wrapped.unforced_and_bare unforced with ⟨unforcedThere, bare⟩
  rw [unforcedThere.of_eq, unforced.of_eq, bare]

end UriTemplate.Datum
