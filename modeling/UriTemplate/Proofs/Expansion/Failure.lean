import UriTemplate.Proofs.Datum.Numbers
import UriTemplate.Proofs.Expansion.Layout

/-!
# Expansions that fail

A range may have more members than any length counts, and then it has no value; and a number may
have too many digits, and then nothing that it is in has a text. An expansion fails if it comes upon
either: upon such a range on the path of a variable or among what is found there, or upon such a
number in a text that is to be written. It fails with the first of these faults, and for genuine
data there are no others.
-/

set_option autoImplicit false

namespace UriTemplate

/-! ## Faults -/

namespace Datum

/-- What is wrong with an overlong range. -/
def sizeFault? (datum : Datum) : Option ShapeError :=
  if datum.isOverlong then some .tooLong else none

/-- The first fault among members. All of them are looked at before the first one is written. -/
def membersFault? (members : List Datum) : Option ShapeError :=
  (members.findSome? sizeFault?).or
    ((members.filter fun member => !member.bare.isNull).findSome? textFault?)

/-- The first fault in an entry. Without a value its key is not written either. -/
def entryFault? (entry : Datum × Datum) : Option ShapeError :=
  entry.2.sizeFault?.or
    (if entry.2.bare.isNull then none else entry.1.textFault?.or entry.2.textFault?)

/-- The first fault in what there is to write of a bare datum. -/
def contentFault? : Datum → Option ShapeError
  | .null => none
  | .collection _ members => membersFault? members
  | .range start stop step => membersFault? (rangeMembers start stop step)
  | .namedTuple _ fields => membersFault? (fields.map (·.2))
  | .mapping entries => entries.findSome? entryFault?
  | datum => datum.textFault?

/-- The first fault that the way along a path comes upon. -/
def faultAlong? : List Text → Datum → Option ShapeError
  | [], datum => datum.bare.contentFault?
  | name :: path, datum => (datum.bare.lookup? name).bind fun part =>
      part.sizeFault?.or (part.faultAlong? path)

end Datum

/-- The first fault that an expression comes upon in a context. -/
def Expression.fault? (context : Datum) (expression : Expression) : Option ShapeError :=
  expression.vars.findSome? fun var => context.faultAlong? var.path

/-- The first fault that a template comes upon in a context. -/
def Template.fault? (context : Datum) (template : Template) : Option ShapeError :=
  template.expressions.findSome? (Expression.fault? context)

namespace Datum

variable {datum : Datum}

theorem faultAlong?_bare (datum : Datum) (path : List Text) :
    datum.bare.faultAlong? path = datum.faultAlong? path := by
  cases path with
  | nil => rw [faultAlong?, faultAlong?, bare_bare]
  | cons name path => rw [faultAlong?, faultAlong?, bare_bare]

variable {error : ShapeError}

theorem eq_of_sizeFault? (faulty : datum.sizeFault? = some error) : error = .tooLong := by
  rw [sizeFault?] at faulty
  split at faulty
  · exact (Option.some.inj faulty).symm
  · cases faulty

theorem eq_of_textFault? (faulty : datum.textFault? = some error) : error = .tooManyDigits := by
  obtain ⟨number, _, wrong⟩ := List.exists_of_findSome?_eq_some faulty
  rw [numberFault?] at wrong
  split at wrong
  · exact (Option.some.inj wrong).symm
  · cases wrong

theorem cases_of_membersFault? {members : List Datum}
    (faulty : membersFault? members = some error) :
    error = .tooLong ∨ error = .tooManyDigits := by
  rcases Option.or_eq_some_iff.mp faulty with early | ⟨_, late⟩
  · obtain ⟨member, _, overlong⟩ := List.exists_of_findSome?_eq_some early
    exact .inl (eq_of_sizeFault? overlong)
  · obtain ⟨member, _, noText⟩ := List.exists_of_findSome?_eq_some late
    exact .inr (eq_of_textFault? noText)

theorem cases_of_entryFault? {entry : Datum × Datum} (faulty : entryFault? entry = some error) :
    error = .tooLong ∨ error = .tooManyDigits := by
  rcases Option.or_eq_some_iff.mp faulty with overlong | ⟨_, noText⟩
  · exact .inl (eq_of_sizeFault? overlong)
  split at noText
  · cases noText
  rcases Option.or_eq_some_iff.mp noText with key | ⟨_, value⟩
  · exact .inr (eq_of_textFault? key)
  · exact .inr (eq_of_textFault? value)

theorem cases_of_contentFault? (faulty : datum.contentFault? = some error) :
    error = .tooLong ∨ error = .tooManyDigits := by
  cases datum with
  | null => cases faulty
  | collection => exact cases_of_membersFault? faulty
  | range => exact cases_of_membersFault? faulty
  | namedTuple => exact cases_of_membersFault? faulty
  | mapping entries =>
      obtain ⟨entry, _, wrong⟩ := List.exists_of_findSome?_eq_some faulty
      exact cases_of_entryFault? wrong
  | _ => exact .inr (eq_of_textFault? faulty)

/-- There are two kinds of faults, by induction on the path. -/
theorem cases_of_faultAlong? {path : List Text} (faulty : datum.faultAlong? path = some error) :
    error = .tooLong ∨ error = .tooManyDigits := by
  induction path generalizing datum with
  | nil => exact cases_of_contentFault? faulty
  | cons name path ih =>
      obtain ⟨part, _, wrong⟩ := Option.bind_eq_some_iff.mp faulty
      rcases Option.or_eq_some_iff.mp wrong with overlong | ⟨_, further⟩
      · exact .inl (eq_of_sizeFault? overlong)
      · exact ih further

/-- There is nothing in an undefined datum. -/
theorem empty_of_undefined (undefined : datum.classify = .ok .undefined) :
    datum.contentFault? = none ∧ ∀ name, datum.lookup? name = none := by
  cases datum with
  | null => exact ⟨rfl, fun _ => rfl⟩
  | collection _ members =>
      cases members with
      | nil => exact ⟨rfl, fun _ => rfl⟩
      | cons => cases undefined
  | range start stop step =>
      simp only [classify] at undefined
      split at undefined
      · cases undefined
      · split at undefined
        next empty =>
          have noMembers : rangeMembers start stop step = [] := by
            rw [rangeMembers, empty]
            rfl
          refine ⟨?_, fun _ => rfl⟩
          rw [contentFault?, noMembers]
          rfl
        next => cases undefined
  | namedTuple _ fields =>
      cases fields with
      | nil => exact ⟨rfl, fun _ => rfl⟩
      | cons => cases undefined
  | mapping entries =>
      cases entries with
      | nil => exact ⟨rfl, fun _ => rfl⟩
      | cons => cases undefined
  | _ => cases undefined

theorem faultAlong?_of_undefined (undefined : datum.bare.classify = .ok .undefined)
    (path : List Text) : datum.faultAlong? path = none := by
  rcases empty_of_undefined undefined with ⟨noFault, noNames⟩
  cases path with
  | nil => exact noFault
  | cons name path => rw [faultAlong?, noNames, Option.bind_none]

/-! ## Contents -/

theorem findSome?_sizeFault? (members : List Datum) :
    members.findSome? sizeFault? = if members.any isOverlong then some .tooLong else none := by
  induction members with
  | nil => rfl
  | cons member rest ih =>
      rw [List.findSome?_cons, sizeFault?, List.any_cons, ih]
      cases member.isOverlong <;> rfl

theorem failsWith_texts (members : List Datum) :
    FailsWith (texts members) (membersFault? members) := by
  rw [texts, membersFault?, findSome?_sizeFault?]
  cases members.any isOverlong with
  | true => exact failsWith_error _
  | false =>
      rw [if_neg Bool.false_ne_true, if_neg Bool.false_ne_true, Option.none_or]
      exact failsWith_mapM fun member _ => failsWith_scalarText member

theorem failsWith_entryText? (entry : Datum × Datum) :
    FailsWith (entryText? entry) (entryFault? entry) := by
  rw [entryText?, entryFault?, sizeFault?]
  cases entry.2.isOverlong with
  | true => exact failsWith_error _
  | false =>
      rw [if_neg Bool.false_ne_true, if_neg Bool.false_ne_true, Option.none_or]
      split
      · exact failsWith_ok _
      · exact (failsWith_scalarText entry.1).bind fun _ => (failsWith_scalarText entry.2).map _

/-- A content fails with the first fault that there is in it. -/
theorem failsWith_content (datum : Datum) : FailsWith datum.content datum.contentFault? := by
  have scalar := (failsWith_scalarText datum).map Content.scalar
  cases datum with
  | null => exact failsWith_ok _
  | collection _ members => exact (failsWith_texts members).map _
  | range => exact (failsWith_texts _).map _
  | namedTuple => exact (failsWith_texts _).map _
  | mapping => exact ((failsWith_mapM fun entry _ => failsWith_entryText? entry).map _).map _
  | _ => exact scalar

end Datum

/-! ## Paths -/

namespace Value

/-- The content of what a path leads to. -/
def contentAt (path : List Text) (value : Value) : Except ShapeError Content :=
  (value.resolve path).bind fun found => found.raw.content

variable {value : Value}

theorem contentAt_nil (value : Value) : value.contentAt [] = value.raw.content := rfl

/-- A path goes on behind a name only where it leads to something. -/
theorem contentAt_cons (name : Text) (path : List Text) (value : Value) :
    value.contentAt (name :: path) = (value.get name).bind fun next =>
      if next.isDefined then next.contentAt path else .ok .undefined := by
  rw [contentAt, Value.resolve]
  cases value.get name with
  | error other => rfl
  | ok next =>
      simp only [bind, Except.bind]
      cases next.isDefined with
      | true => rfl
      | false => rfl

theorem contentAt_of_missing {name : Text} (missing : value.raw.lookup? name = none)
    (path : List Text) : value.contentAt (name :: path) = .ok .undefined := by
  rw [contentAt_cons, Value.get, missing]
  rfl

/-- What is found under a name has a content to go on to, unless it is overlong. -/
theorem Genuine.contentAt_of_found (genuine : value.Genuine) {name : Text} {part : Datum}
    (found : value.raw.lookup? name = some part) (path : List Text) :
    value.contentAt (name :: path) =
      if part.isOverlong then .error .tooLong
      else if part.bareValue.isDefined then part.bareValue.contentAt path
      else .ok .undefined := by
  have made := (genuine.raw.lookup found).of_eq
  rw [contentAt_cons, Value.get, found]
  dsimp only
  rw [made]
  cases part.isOverlong with
  | true => rfl
  | false => rfl

/-- Along a path and on to the content there is a failure only where a fault is. -/
theorem Genuine.failsWith_contentAt (genuine : value.Genuine) (path : List Text) :
    FailsWith (value.contentAt path) (value.raw.faultAlong? path) := by
  induction path generalizing value with
  | nil =>
      rw [contentAt_nil, Datum.faultAlong?, genuine.bare]
      exact Datum.failsWith_content value.raw
  | cons name path ih =>
      rw [Datum.faultAlong?, genuine.bare]
      cases found : value.raw.lookup? name with
      | none =>
          rw [contentAt_of_missing found]
          exact failsWith_ok _
      | some part =>
          have partGenuine : part.Genuine := genuine.raw.lookup found
          have made := partGenuine.of_eq
          rw [genuine.contentAt_of_found found, Option.bind_some, Datum.sizeFault?]
          cases overlong : part.isOverlong with
          | true => exact failsWith_error _
          | false =>
              rw [overlong, if_neg Bool.false_ne_true] at made
              have nextGenuine := genuine_of partGenuine made
              rw [if_neg Bool.false_ne_true, if_neg Bool.false_ne_true, Option.none_or]
              cases defined : part.bareValue.isDefined with
              | true =>
                  have rest := ih nextGenuine
                  rw [if_pos rfl]
                  rwa [Datum.bareValue, Datum.faultAlong?_bare] at rest
              | false =>
                  -- The path ends early here, and an undefined datum has nothing to come upon.
                  have kind : part.bareValue.kind = .undefined := by
                    simpa [isDefined] using defined
                  have undefined : part.bare.classify = .ok .undefined := by
                    rw [← kind]
                    exact nextGenuine.kind
                  rw [if_neg Bool.false_ne_true, Datum.faultAlong?_of_undefined undefined]
                  exact failsWith_ok _

end Value

/-! ## Expressions and templates -/

theorem Variable.itemsIn_eq (operator : Operator) (data : Value) (var : Variable) :
    var.itemsIn operator data = (data.contentAt var.path).map (var.items operator) := by
  rw [itemsIn, Value.contentAt]
  cases data.resolve var.path with
  | error error => rfl
  | ok value => cases value.raw.content <;> rfl

theorem Expression.fault?_bare (context : Datum) (expression : Expression) :
    expression.fault? context.bare = expression.fault? context := by
  simp only [fault?, Datum.faultAlong?_bare]

/-- An expression comes upon overlong ranges and upon long numbers, and upon no other faults. -/
theorem Expression.cases_of_fault? {context : Datum} {expression : Expression} {error : ShapeError}
    (faulty : expression.fault? context = some error) :
    error = .tooLong ∨ error = .tooManyDigits := by
  obtain ⟨var, _, wrong⟩ := List.exists_of_findSome?_eq_some faulty
  exact Datum.cases_of_faultAlong? wrong

/-- The first fault of a template is that of the first part that has one. -/
theorem Template.fault?_eq (context : Datum) (template : Template) :
    template.fault? context = template.parts.findSome? fun part =>
      part.expression?.bind (Expression.fault? context) := by
  rw [fault?, expressions]
  induction template.parts with
  | nil => rfl
  | cons part rest ih =>
      rw [List.findSome?_cons, ← ih, List.filterMap_cons]
      cases part.expression? with
      | none => rfl
      | some body => rw [Option.bind_some, List.findSome?_cons]

section

variable {context : Datum} {data : Value} (genuine : context.Genuine)
  (made : Value.of context = .ok data)

include genuine made

/-- An expression fails with the first fault that one of its variables comes upon. -/
theorem Expression.failsWith_expand (expression : Expression) :
    FailsWith (expression.expand data) (expression.fault? context) := by
  have valueGenuine := Value.genuine_of genuine made
  rw [expand_of_genuine valueGenuine, items, ← fault?_bare, ← Value.raw_of genuine made]
  apply FailsWith.map
  apply FailsWith.map
  apply failsWith_mapM
  intro var _
  rw [Variable.itemsIn_eq]
  exact (valueGenuine.failsWith_contentAt var.path).map _

/-- Without a fault the variables of an expression have items, and it expands to their layout. -/
theorem Expression.exists_items {expression : Expression}
    (faultless : expression.fault? context = none) :
    ∃ items, expression.items data = .ok items ∧
      expression.expand data = .ok (expression.operator.layout items) := by
  have layout := expand_of_genuine (Value.genuine_of genuine made) expression
  obtain ⟨expanded, expands⟩ := (expression.failsWith_expand genuine made).exists_ok faultless
  obtain ⟨items, found, rfl⟩ := exceptMap_ok.mp (layout.symm.trans expands)
  exact ⟨items, found, expands⟩

/-- A template fails with the first fault that one of its expressions comes upon. -/
theorem Template.failsWith_expand (template : Template) :
    FailsWith (template.expand data) (template.fault? context) := by
  rw [expand, fault?_eq]
  apply FailsWith.map
  apply failsWith_mapM
  intro part _
  cases part with
  | literal text => exact failsWith_ok text
  | separator => exact failsWith_ok _
  | expression body => exact body.failsWith_expand genuine made

end

-- A long number in a list is in the way of the list, but not of a name that leads nowhere from it.
example :
    let context : Datum := .mapping [(.text "x", .collection .list [.null, .int (10 ^ 5000 : Nat)])]
    (Template.fault? context ⟨[.expression ⟨.simple, [⟨["x"], none, by simp⟩], by simp⟩]⟩).isSome ∧
      (Template.fault? context
        ⟨[.expression ⟨.simple, [⟨["x", "y"], none, by simp⟩], by simp⟩]⟩).isNone := by
  decide +kernel

end UriTemplate
