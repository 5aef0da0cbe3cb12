import UriTemplate.Text

/-!
# Places in a sequence

A place in a sequence is given by an index, which counts from the beginning or, if it is
negative, back from the end. Indices and lengths are numbers of 64 bits with a sign; what is
wider is neither, whatever the sequence holds.
-/

set_option autoImplicit false

namespace UriTemplate.Index

/-- The least number that is too large for a length. -/
def bound : Nat := 9223372036854775808

/-- Why an index gives no place. -/
inductive Fault where
  | tooWide
  | outOfRange
  deriving DecidableEq, Repr

/-- The wording of a fault. The name of the sequence, if it has one, comes first. -/
def Fault.message (sequence : Option Text) : Fault → Text
  | .tooWide => "cannot fit 'int' into an index-sized integer"
  | .outOfRange =>
      (sequence.elim [] fun name => name ++ ([' '] : Text)) ++ ("index out of range" : Text)

/-- Whether a number has the width of an index. -/
def fits (index : Int) : Bool :=
  -(bound : Int) ≤ index && index < bound

/-- An index that counts from the beginning, for one that may be negative. -/
def fromStart (length : Nat) (index : Int) : Int :=
  if index < 0 then index + length else index

/-- The place that an index gives in a sequence of some length. -/
def place (length : Nat) (index : Int) : Except Fault Nat :=
  let counted := fromStart length index
  if !fits index then .error .tooWide
  else if 0 ≤ counted ∧ counted < length then .ok counted.toNat
  else .error .outOfRange

end UriTemplate.Index
