import UriTemplate.Datum.Shown
import UriTemplate.Proofs.Datum.Genuine
import UriTemplate.Proofs.Text.Decimal

/-!
# The numbers in a text

The text of a datum shows all numbers that are in it, however deep. These are the only things that
can be wrong with a text: there is none if one of them has too many digits.
-/

set_option autoImplicit false

namespace UriTemplate.Datum

/-- What is wrong with a number that has too many digits to be shown. -/
def numberFault? (number : Int) : Option ShapeError :=
  if 10 ^ Text.digitLimit ≤ number.natAbs then some .tooManyDigits else none

mutual

/-- The numbers that are shown where a datum is. -/
def numbers : Datum → List Int
  | .int value => [value]
  | .range start stop step => rangeBounds start stop step
  | .collection _ members => memberNumbers members
  | .mapping entries => entryNumbers entries
  | .namedTuple _ fields => namedNumbers fields
  | .record _ _ fields => fieldNumbers fields
  | .member _ _ value => numbers value
  | .wrapped raw _ => numbers raw
  | .null | .bool _ | .float _ | .text _ | .bytes _ | .byteArray _ | .recordType _ _
  | .object _ => []

/-- The numbers in some data. -/
def memberNumbers : List Datum → List Int
  | [] => []
  | datum :: rest => numbers datum ++ memberNumbers rest

/-- The numbers in entries. -/
def entryNumbers : List (Datum × Datum) → List Int
  | [] => []
  | (key, value) :: rest => numbers key ++ (numbers value ++ entryNumbers rest)

/-- The numbers in the fields of a named tuple. -/
def namedNumbers : List (Text × Datum) → List Int
  | [] => []
  | (_, value) :: rest => numbers value ++ namedNumbers rest

/-- The numbers in the fields of a record. -/
def fieldNumbers : List (Field Datum) → List Int
  | [] => []
  | ⟨_, _, value⟩ :: rest => numbers value ++ fieldNumbers rest

end

/-- The first number in a datum that is wrong. -/
def textFault? (datum : Datum) : Option ShapeError :=
  datum.numbers.findSome? numberFault?

theorem failsWith_numeral (number : Int) : FailsWith (numeral number) (numberFault? number) := by
  have none := Text.ofInt?_eq_none_iff number
  rw [numeral, numberFault?]
  cases shown : Text.ofInt? number with
  | none =>
      rw [if_pos (none.mp shown)]
      exact failsWith_error _
  | some digits =>
      have short : ¬10 ^ Text.digitLimit ≤ number.natAbs := by
        rw [← none, shown]
        exact nofun
      rw [if_neg short]
      exact failsWith_ok digits

-- The first number that is too long, and the last one that is not.
example : (numberFault? (10 ^ 4300 : Nat)).isSome = true ∧
    (numberFault? (-(10 ^ 4300 - 1 : Nat))).isSome = false := by
  decide +kernel

/-! ## Literals -/

/-- What is made of a literal and what follows it fails with the first number in either. -/
theorem failsWith_cons {α β γ : Type} {first : Except ShapeError α} {rest : Except ShapeError β}
    {numbers more : List Int} (head : FailsWith first (numbers.findSome? numberFault?))
    (tail : FailsWith rest (more.findSome? numberFault?)) (join : α → β → γ) :
    FailsWith (first >>= fun text => rest.map (join text))
      ((numbers ++ more).findSome? numberFault?) := by
  rw [List.findSome?_append]
  exact head.bind fun _ => tail.map _

mutual

/-- A literal fails with the first number in its datum that is wrong, by induction on the datum. -/
theorem failsWith_literal : (datum : Datum) → FailsWith datum.literal datum.textFault?
  | .int value => by
      have single : (int value).textFault? = numberFault? value := by
        rw [textFault?, numbers, List.findSome?_singleton]
      rw [single]
      exact failsWith_numeral value
  | .range _ _ _ => (failsWith_mapM fun number _ => failsWith_numeral number).map _
  | .collection _ members => (failsWith_literals members).map _
  | .mapping entries => (failsWith_entryLiterals entries).map _
  | .namedTuple _ fields => (failsWith_namedLiterals fields).map _
  | .record _ _ fields => (failsWith_fieldLiterals fields).map _
  | .member _ _ value => (failsWith_literal value).map _
  | .wrapped raw _ => (failsWith_literal raw).map _
  | .null | .bool _ | .float _ | .text _ | .bytes _ | .byteArray _ | .recordType _ _ | .object _ =>
      failsWith_ok _

theorem failsWith_literals : (members : List Datum) →
    FailsWith (literals members) ((memberNumbers members).findSome? numberFault?)
  | [] => failsWith_ok []
  | datum :: rest => failsWith_cons (failsWith_literal datum) (failsWith_literals rest) _

theorem failsWith_entryLiterals : (entries : List (Datum × Datum)) →
    FailsWith (entryLiterals entries) ((entryNumbers entries).findSome? numberFault?)
  | [] => failsWith_ok []
  | (key, value) :: rest => by
      rw [entryNumbers, List.findSome?_append]
      exact (failsWith_literal key).bind fun _ =>
        failsWith_cons (failsWith_literal value) (failsWith_entryLiterals rest) _

theorem failsWith_namedLiterals : (fields : List (Text × Datum)) →
    FailsWith (namedLiterals fields) ((namedNumbers fields).findSome? numberFault?)
  | [] => failsWith_ok []
  | (_, value) :: rest => failsWith_cons (failsWith_literal value) (failsWith_namedLiterals rest) _

theorem failsWith_fieldLiterals : (fields : List (Field Datum)) →
    FailsWith (fieldLiterals fields) ((fieldNumbers fields).findSome? numberFault?)
  | [] => failsWith_ok []
  | ⟨_, _, value⟩ :: rest =>
      failsWith_cons (failsWith_literal value) (failsWith_fieldLiterals rest) _

end

/-! ## Texts -/

theorem failsWith_shown (datum : Datum) : FailsWith datum.shown datum.textFault? := by
  cases datum with
  | text value => exact failsWith_ok value
  | record style name fields =>
      cases style with
      | call => exact failsWith_literal _
      | fieldList => exact (failsWith_fieldLiterals fields).map _
  | _ => exact failsWith_literal _

/-- The numbers of a datum are in it without its wrappings. -/
theorem numbers_bare (datum : Datum) : datum.bare.numbers = datum.numbers := by
  fun_induction bare datum with
  | case1 _ _ value ih => exact ih
  | case2 raw _ ih => exact ih
  | case3 => rfl

/-- The value of a datum has the same numbers in it. -/
theorem textFault?_of_made {datum : Datum} {value : Value} (made : Value.of datum = .ok value) :
    value.raw.textFault? = datum.textFault? := by
  rcases Value.wrapped_or_of_eq datum with ⟨wrapped, rfl⟩ | same
  · cases made
    rfl
  · rw [same] at made
    rcases exceptMap_ok.mp made with ⟨kind, _, rfl⟩
    rw [textFault?, numbers_bare, textFault?]

/-- A text fails with the first number in its datum that is wrong. -/
theorem failsWith_scalarText (datum : Datum) : FailsWith datum.scalarText datum.textFault? := by
  rw [textFault?, ← numbers_bare, scalarText]
  cases datum.bare with
  | bool value => exact failsWith_ok _
  | text value => exact failsWith_ok _
  | bytes value => exact failsWith_ok _
  | byteArray value => exact failsWith_ok _
  | _ => exact failsWith_shown _

end UriTemplate.Datum
