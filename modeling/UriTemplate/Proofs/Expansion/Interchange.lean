import UriTemplate.Proofs.Expansion.Layout
import UriTemplate.Proofs.Expansion.Relevance

/-!
# Data in each other's place

Two data are interchangeable if it makes no difference which of them a name leads to: a variable
that ends there is written alike, and so is one whose path goes on from there. Interchangeable data
may stand in each other's place as the entries of a context.

Deeper in a context they may do so too, as long as no variable ends above them. Where one does, it
is written with all that is below it, and a part of a part is then shown as it is.
-/

set_option autoImplicit false

namespace UriTemplate

namespace Value

/-- Follow a path from a value that was found. Only a defined one leads on. -/
def followed (path : List Text) (value : Value) : Except ShapeError Value :=
  if value.isDefined then value.resolve path else .ok undefined

/-- Write what a path leads to from a value that was found. -/
def writeAlong (operator : Operator) (var : Variable) (path : List Text) (writer : ItemWriter)
    (value : Value) : Except ShapeError ItemWriter :=
  (value.followed path).bind (writeTo operator var writer)

end Value

namespace Datum

/-- Write what a path leads to from a datum that a name leads to. -/
def writeFrom (operator : Operator) (var : Variable) (path : List Text) (writer : ItemWriter)
    (datum : Datum) : Except ShapeError ItemWriter :=
  (Value.of datum).bind (Value.writeAlong operator var path writer)

/-- It makes no difference which of two data a name leads to. -/
def Interchangeable (first second : Datum) : Prop :=
  ∀ operator var path writer,
    first.writeFrom operator var path writer = second.writeFrom operator var path writer

end Datum

namespace Value

variable {value other : Value} {operator : Operator} {var : Variable} {writer : ItemWriter}

/-- A value is written where its path ends, and if it is undefined nothing is written. -/
theorem writeAlong_nil : value.writeAlong operator var [] writer =
    value.writeTo operator var writer := by
  rcases value with ⟨raw, kind⟩
  cases kind <;> rfl

/-- A name in front of a path leads to a part or to nothing. -/
theorem writeTo_resolve_cons (segment : Text) (rest : List Text) :
    (value.resolve (segment :: rest)).bind (writeTo operator var writer) =
      (value.raw.lookup? segment).elim (.ok writer) (Datum.writeFrom operator var rest writer) := by
  have split : value.resolve (segment :: rest) = (value.get segment).bind (followed rest) := rfl
  rw [split, get]
  cases value.raw.lookup? segment with
  | none => rfl
  | some part =>
      rw [Option.elim_some, Datum.writeFrom]
      dsimp only
      cases of part <;> rfl

/-- Only a defined value leads on. -/
theorem writeAlong_cons (segment : Text) (rest : List Text) :
    value.writeAlong operator var (segment :: rest) writer =
      if value.isDefined then
        (value.raw.lookup? segment).elim (.ok writer) (Datum.writeFrom operator var rest writer)
      else .ok writer := by
  rw [writeAlong, followed]
  split
  · exact writeTo_resolve_cons segment rest
  · rfl

end Value

namespace Datum

variable {first second third : Datum} {value other : Value}

theorem writeFrom_of_made (made : Value.of first = .ok value) (operator : Operator)
    (var : Variable) (path : List Text) (writer : ItemWriter) :
    first.writeFrom operator var path writer = value.writeAlong operator var path writer := by
  rw [writeFrom, made]
  rfl

theorem Interchangeable.of_eq (same : Value.of first = Value.of second) :
    first.Interchangeable second := by
  intro operator var path writer
  rw [writeFrom, writeFrom, same]

theorem Interchangeable.trans (left : first.Interchangeable second)
    (right : second.Interchangeable third) : first.Interchangeable third := by
  intro operator var path writer
  rw [left, right]

/-- Where a name leads to interchangeable data it makes no difference which of them is written. -/
theorem Interchangeable.elim_eq {found partner : Option Datum}
    (alike : Option.Rel Interchangeable found partner) (operator : Operator) (var : Variable)
    (path : List Text) (writer : ItemWriter) :
    found.elim (.ok writer) (writeFrom operator var path writer) =
      partner.elim (.ok writer) (writeFrom operator var path writer) := by
  cases alike with
  | none => rfl
  | some interchangeable => exact interchangeable operator var path writer

/-- A datum in which a collection is found, whatever is around it. Without members the collection is
undefined, unless it was made a list before. -/
def HasMembers (shape : Collection) (members : List Datum) (datum : Datum) : Prop :=
  ∃ kind, Value.of datum = .ok ⟨.collection shape members, kind⟩ ∧
    (kind = .list ∨ members = [] ∧ kind = .undefined)

theorem hasMembers_collection (shape : Collection) (members : List Datum) :
    (collection shape members).HasMembers shape members := by
  cases members with
  | nil => exact ⟨.undefined, rfl, .inr ⟨rfl, rfl⟩⟩
  | cons member rest => exact ⟨.list, rfl, .inl rfl⟩

namespace HasMembers

variable {shape form : Collection} {members others : List Datum}

/-- A collection is written by the texts of its members that are present. -/
theorem writeFrom_nil (found : first.HasMembers shape members) (operator : Operator)
    (var : Variable) (writer : ItemWriter) :
    first.writeFrom operator var [] writer = (presentTexts members).map fun texts =>
      .writeItems operator (var.items operator (.list texts)) writer := by
  obtain ⟨kind, made, cases⟩ := found
  rw [writeFrom_of_made made, Value.writeAlong_nil]
  rcases cases with rfl | ⟨rfl, rfl⟩
  · exact Value.writeTo_presentTexts rfl writer
  · rfl

/-- No name leads on from a collection. -/
theorem writeFrom_cons (found : first.HasMembers shape members) (operator : Operator)
    (var : Variable) (segment : Text) (rest : List Text) (writer : ItemWriter) :
    first.writeFrom operator var (segment :: rest) writer = .ok writer := by
  obtain ⟨kind, made, _⟩ := found
  simp only [writeFrom_of_made made, Value.writeAlong_cons, lookup?, Option.elim_none, ite_self]

/-- Collections are interchangeable if the same of their members are present. -/
theorem interchangeable (found : first.HasMembers shape members)
    (foundOther : second.HasMembers form others)
    (same : presentTexts members = presentTexts others) : first.Interchangeable second := by
  intro operator var path writer
  cases path with
  | nil => rw [found.writeFrom_nil, foundOther.writeFrom_nil, same]
  | cons segment rest => rw [found.writeFrom_cons, foundOther.writeFrom_cons]

end HasMembers

/-- Data of the same kind are interchangeable if their values are written alike and their names lead
to interchangeable data. -/
theorem interchangeable_of_lookup (kind : Kind) (firstMade : Value.of first = .ok ⟨first, kind⟩)
    (secondMade : Value.of second = .ok ⟨second, kind⟩)
    (written : ∀ operator var writer, Value.writeTo operator var writer ⟨first, kind⟩ =
      Value.writeTo operator var writer ⟨second, kind⟩)
    (parts : ∀ name, Option.Rel Interchangeable (first.lookup? name) (second.lookup? name)) :
    first.Interchangeable second := by
  intro operator var path writer
  have along : Value.writeAlong operator var path writer ⟨first, kind⟩ =
      Value.writeAlong operator var path writer ⟨second, kind⟩ := by
    cases path with
    | nil => rw [Value.writeAlong_nil, Value.writeAlong_nil, written]
    | cons segment rest =>
        have defined : Value.isDefined ⟨first, kind⟩ = Value.isDefined ⟨second, kind⟩ := rfl
        rw [Value.writeAlong_cons, Value.writeAlong_cons, defined,
          Interchangeable.elim_eq (parts segment)]
  rw [writeFrom_of_made firstMade, writeFrom_of_made secondMade, along]

end Datum

/-! ## Contexts -/

/-- A variable is written by what the first name of its path leads to. -/
theorem Variable.write_of_path {operator : Operator} {data : Value} {var : Variable}
    {segment : Text} {rest : List Text} (path : var.path = segment :: rest) (writer : ItemWriter) :
    var.write operator data writer =
      (data.raw.lookup? segment).elim (.ok writer) (Datum.writeFrom operator var rest writer) := by
  have split : var.write operator data writer =
      (data.resolve var.path).bind (Value.writeTo operator var writer) := rfl
  rw [split, path, Value.writeTo_resolve_cons]

/-- Contexts in which all names lead to interchangeable data give the same expansions. -/
theorem Template.expand_eq_of_interchangeable {first second : Value}
    (parts : ∀ name, Option.Rel Datum.Interchangeable (first.raw.lookup? name)
      (second.raw.lookup? name)) (template : Template) :
    template.expand first = template.expand second := by
  apply WrittenAlike.expand
  intro expression member var inside writer
  rcases List.exists_cons_of_ne_nil var.path_ne_nil with ⟨segment, rest, path⟩
  rw [Variable.write_of_path path, Variable.write_of_path path]
  exact Datum.Interchangeable.elim_eq (parts segment) _ _ _ _

/-! ## Further below -/

/-- Two defined values with the same parts, but for the one that a name leads to: that is one datum
in the first and another one in the second. -/
structure Value.SameBut (name : Text) (part other : Datum) (left right : Value) : Prop where
  defined : left.isDefined = true ∧ right.isDefined = true
  found : left.raw.lookup? name = some part ∧ right.raw.lookup? name = some other
  others : ∀ segment, segment ≠ name → left.raw.lookup? segment = right.raw.lookup? segment

namespace Datum

/-- Two data that are the same but for a collection that a path leads to: that has the one members
here and the other ones there. There may be enumeration members and wrappings around the collection
and around whatever the path leads through. -/
inductive SameExcept (shape : Collection) (members others : List Datum) :
    List Text → Datum → Datum → Prop where
  | here {left right : Datum} :
      left.HasMembers shape members → right.HasMembers shape others →
      SameExcept shape members others [] left right
  | under {name : Text} {names : List Text} {left right part other : Datum} {outer inner : Value} :
      Value.of left = .ok outer → Value.of right = .ok inner →
      Value.SameBut name part other outer inner →
      SameExcept shape members others names part other →
      SameExcept shape members others (name :: names) left right

variable {left right part other datum : Datum} {value : Value} {name : Text} {names : List Text}
  {shape : Collection} {members others : List Datum} {operator : Operator} {var : Variable}
  {writer : ItemWriter}

/-- A defined datum is followed from its parts on. -/
theorem writeFrom_cons (made : Value.of datum = .ok value) (defined : value.isDefined = true)
    (segment : Text) (rest : List Text) :
    datum.writeFrom operator var (segment :: rest) writer =
      (value.raw.lookup? segment).elim (.ok writer) (writeFrom operator var rest writer) := by
  rw [writeFrom_of_made made, Value.writeAlong_cons, if_pos defined]

/-- In a defined context a variable is written by what its path leads to. -/
theorem write_eq_writeFrom (made : Value.of datum = .ok value) (defined : value.isDefined = true)
    (var : Variable) :
    var.write operator value writer = datum.writeFrom operator var var.path writer := by
  rcases List.exists_cons_of_ne_nil var.path_ne_nil with ⟨segment, rest, path⟩
  rw [Variable.write_of_path path, path, writeFrom_cons made defined]

/-- A mapping finds a name at its first entry for it. -/
theorem lookup?_entry {before after : List (Datum × Datum)}
    (fresh : before.find? (fun entry => entry.1.isText name) = none) (value : Datum) :
    lookup? name (.mapping (before ++ (.text name, value) :: after)) = some value := by
  have own : isText name (.text name) = true := beq_self_eq_true name
  simp [lookup?, List.find?_append, fresh, own]

/-- A difference in the value of an entry. -/
theorem SameExcept.entry (before after : List (Datum × Datum))
    (fresh : before.find? (fun entry => entry.1.isText name) = none)
    (leftMade : Value.of left = .ok ⟨.mapping (before ++ (.text name, part) :: after), .mapping⟩)
    (rightMade : Value.of right = .ok ⟨.mapping (before ++ (.text name, other) :: after), .mapping⟩)
    (except : SameExcept shape members others names part other) :
    SameExcept shape members others (name :: names) left right := by
  refine .under leftMade rightMade ⟨⟨rfl, rfl⟩, ?_, ?_⟩ except
  · exact ⟨lookup?_entry fresh part, lookup?_entry fresh other⟩
  · intro segment different
    have foreign : isText segment (.text name) = false := by
      simpa [isText] using different.symm
    simp [lookup?, List.find?_append, foreign]

namespace SameExcept

/-- A path that does not end above the collection is written alike, by induction on the way to
it. -/
theorem writeFrom_eq (except : SameExcept shape members others names left right)
    (same : presentTexts members = presentTexts others)
    {path : List Text} (reaches : path <+: names → path = names) :
    left.writeFrom operator var path writer = right.writeFrom operator var path writer := by
  induction except generalizing path with
  | here leftFound rightFound =>
      exact leftFound.interchangeable rightFound same operator var path writer
  | @under name names left right part other outer inner leftMade rightMade but _ ih =>
      obtain ⟨leftDefined, rightDefined⟩ := but.defined
      obtain ⟨leftFound, rightFound⟩ := but.found
      cases path with
      | nil => cases reaches List.nil_prefix
      | cons segment rest =>
          rw [writeFrom_cons leftMade leftDefined, writeFrom_cons rightMade rightDefined]
          by_cases here : segment = name
          · rw [here, leftFound, rightFound, Option.elim_some, Option.elim_some]
            apply ih
            intro above
            have longer : segment :: rest <+: name :: names :=
              List.cons_prefix_cons.mpr ⟨here, above⟩
            exact (List.cons.inj (reaches longer)).2
          · rw [but.others segment here]

/-- The path leads to the collection with the one members and to that with the other ones. -/
theorem writeFrom_names (except : SameExcept shape members others names left right) :
    (left.writeFrom operator var names writer = (presentTexts members).map fun texts =>
        .writeItems operator (var.items operator (.list texts)) writer) ∧
      right.writeFrom operator var names writer = (presentTexts others).map fun texts =>
        .writeItems operator (var.items operator (.list texts)) writer := by
  induction except with
  | here leftFound rightFound =>
      exact ⟨leftFound.writeFrom_nil operator var writer,
        rightFound.writeFrom_nil operator var writer⟩
  | under leftMade rightMade but _ ih =>
      obtain ⟨leftDefined, rightDefined⟩ := but.defined
      obtain ⟨leftFound, rightFound⟩ := but.found
      rw [writeFrom_cons leftMade leftDefined, writeFrom_cons rightMade rightDefined, leftFound,
        rightFound]
      exact ih

/-- Where the collection is not all there is, both data are defined. -/
theorem exists_made (except : SameExcept shape members others names left right)
    (nonempty : names ≠ []) :
    ∃ outer inner, (Value.of left = .ok outer ∧ outer.isDefined = true) ∧
      Value.of right = .ok inner ∧ inner.isDefined = true := by
  cases except with
  | here => contradiction
  | under leftMade rightMade but =>
      exact ⟨_, _, ⟨leftMade, but.defined.1⟩, rightMade, but.defined.2⟩

end SameExcept

end Datum

/-- No variable of a template ends above a path. -/
def Template.NoneAbove (template : Template) (names : List Text) : Prop :=
  ∀ expression ∈ template.expressions, ∀ var ∈ expression.vars,
    var.path <+: names → var.path = names

/-- No path ends above a single name. -/
theorem Template.noneAbove_singleton (template : Template) (name : Text) :
    template.NoneAbove [name] := by
  intro expression _ var _ above
  rcases List.prefix_cons_iff.mp above with empty | ⟨rest, path, shorter⟩
  · exact absurd empty var.path_ne_nil
  · rw [path, List.prefix_nil.mp shorter]

/-- Data that differ in a collection of which the same members are present give the same expansions,
if no variable ends above it. -/
theorem Datum.SameExcept.expand_eq {shape : Collection} {members others : List Datum}
    {names : List Text} {left right : Datum}
    (except : SameExcept shape members others names left right) (nonempty : names ≠ [])
    (same : Datum.presentTexts members = Datum.presentTexts others) {template : Template}
    (noneAbove : template.NoneAbove names) :
    Value.of left >>= template.expand = Value.of right >>= template.expand := by
  obtain ⟨outer, inner, ⟨leftMade, leftDefined⟩, rightMade, rightDefined⟩ :=
    except.exists_made nonempty
  rw [leftMade, rightMade]
  apply Template.WrittenAlike.expand
  intro expression member var inside writer
  rw [Datum.write_eq_writeFrom leftMade leftDefined,
    Datum.write_eq_writeFrom rightMade rightDefined]
  exact except.writeFrom_eq same (noneAbove expression member var inside)

end UriTemplate
