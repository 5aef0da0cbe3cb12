import UriTemplate.Expand
import UriTemplate.Proofs.Datum.Wrapping
import UriTemplate.Proofs.Expansion.Interchange
import UriTemplate.Proofs.Template.Simulation

/-!
# Wrapped data in a context

What wraps a datum may stand in its place: as a value of a context, and inside such a value as a
member or under a key. It makes no difference to any expansion. The only exception are values whose
kind was forced upon them, for an enumeration member around one of them hides that kind.
-/

set_option autoImplicit false

namespace UriTemplate

/-- Two entries with the same key and related values. -/
def Keyed {κ α : Type} (related : α → α → Prop) (entry other : κ × α) : Prop :=
  entry.1 = other.1 ∧ related entry.2 other.2

theorem Keyed.imp {κ α : Type} {related wider : α → α → Prop}
    (implies : ∀ value other, related value other → wider value other) (entry other : κ × α)
    (keyed : Keyed related entry other) : Keyed wider entry other :=
  ⟨keyed.1, implies _ _ keyed.2⟩

/-- Related entries are found under the same keys. -/
theorem find?_keyed {κ α : Type} {related : α → α → Prop} {entries others : List (κ × α)}
    (alike : List.Forall₂ (Keyed related) entries others) (accepts : κ → Bool) :
    Option.Rel related ((entries.find? fun entry => accepts entry.1).map (·.2))
      ((others.find? fun entry => accepts entry.1).map (·.2)) := by
  induction alike with
  | nil => exact .none
  | @cons entry other _ _ keyed _ ih =>
      rw [List.find?_cons, List.find?_cons, ← keyed.1]
      cases accepts entry.1 with
      | true => exact .some keyed.2
      | false => exact ih

theorem isEmpty_eq_of_forall₂ {α β : Type} {related : α → β → Prop} {list : List α}
    {others : List β} (alike : List.Forall₂ related list others) :
    list.isEmpty = others.isEmpty := by
  cases alike <;> rfl

namespace Datum

/-- One datum may stand in the place of another one: it is the same, or it wraps it. A value with a
forced kind stays as it is. -/
def Rewrapped (datum other : Datum) : Prop :=
  other = datum ∨ datum.Unforced ∧ datum.WrappedBy other

/-- Two data that are the same, or that are collections, named tuples or mappings in which the parts
of one wrap those of the other. -/
inductive PartsRewrapped : Datum → Datum → Prop where
  | whole (datum : Datum) : PartsRewrapped datum datum
  | collection (shape : Collection) {members others : List Datum} :
      List.Forall₂ Rewrapped members others →
      PartsRewrapped (.collection shape members) (.collection shape others)
  | namedTuple (name : Text) {fields others : List (Text × Datum)} :
      List.Forall₂ (Keyed Rewrapped) fields others →
      PartsRewrapped (.namedTuple name fields) (.namedTuple name others)
  | mapping {entries others : List (Datum × Datum)} :
      List.Forall₂ (Keyed Rewrapped) entries others →
      PartsRewrapped (.mapping entries) (.mapping others)

/-- A datum with its parts and itself wrapped. -/
def Enveloped (datum other : Datum) : Prop :=
  ∃ inner, datum.PartsRewrapped inner ∧ inner.Rewrapped other

variable {datum other : Datum} {members : List Datum}

theorem Rewrapped.of_eq (rewrapped : datum.Rewrapped other) : Value.of datum = Value.of other := by
  rcases rewrapped with rfl | ⟨unforced, wrapped⟩
  · rfl
  · exact (wrapped.of_eq unforced).symm

theorem Rewrapped.interchangeable (rewrapped : datum.Rewrapped other) :
    datum.Interchangeable other :=
  .of_eq rewrapped.of_eq

/-- Of rewrapped members the same are present. -/
theorem presentTexts_rewrapped {others : List Datum}
    (alike : List.Forall₂ Rewrapped members others) :
    presentTexts members = presentTexts others := by
  have same := alike.imp fun _ _ => Rewrapped.of_eq
  rw [presentTexts, presentTexts, presentValues, presentValues, mapM_congr_forall₂ same]

/-- Of rewrapped entries the same are present. -/
theorem presentEntries_rewrapped {entries others : List (Datum × Datum)}
    (alike : List.Forall₂ (Keyed Rewrapped) entries others) :
    presentEntries entries = presentEntries others := by
  rw [presentEntries, presentEntries]
  congr 1
  apply mapM_congr_forall₂
  refine alike.imp ?_
  intro entry other keyed
  rw [Value.useEntry, Value.useEntry, keyed.1, keyed.2.of_eq]

theorem forall₂_interchangeable {κ : Type} {entries others : List (κ × Datum)}
    (alike : List.Forall₂ (Keyed Rewrapped) entries others) :
    List.Forall₂ (Keyed Interchangeable) entries others :=
  alike.imp (Keyed.imp fun _ _ => Rewrapped.interchangeable)

/-- A named tuple is written by the texts of its fields that are present. -/
theorem writeTo_namedTuple (name : Text) (fields : List (Text × Datum)) (operator : Operator)
    (var : Variable) (writer : ItemWriter) :
    Value.writeTo operator var writer
        ⟨.namedTuple name fields, if fields.isEmpty then .undefined else .list⟩ =
      (presentTexts (fields.map (·.2))).map fun texts =>
        .writeItems operator (var.items operator (.list texts)) writer := by
  have listed : (Datum.namedTuple name fields).members = .ok (fields.map (·.2)) := rfl
  rw [← Value.writeTo_members listed, List.isEmpty_map]

theorem interchangeable_namedTuple (name : Text) {fields others : List (Text × Datum)}
    (alike : List.Forall₂ (Keyed Rewrapped) fields others) :
    (Datum.namedTuple name fields).Interchangeable (.namedTuple name others) := by
  have members : List.Forall₂ Rewrapped (fields.map (·.2)) (others.map (·.2)) := by
    rw [List.forall₂_map_left_iff, List.forall₂_map_right_iff]
    exact alike.imp fun _ _ => And.right
  apply interchangeable_of_lookup (if fields.isEmpty then .undefined else .list) rfl
  · rw [isEmpty_eq_of_forall₂ alike]
    rfl
  · intro operator var writer
    rw [writeTo_namedTuple, isEmpty_eq_of_forall₂ alike, writeTo_namedTuple,
      presentTexts_rewrapped members]
  · intro key
    exact find?_keyed (forall₂_interchangeable alike) (· == key)

theorem interchangeable_mapping {entries others : List (Datum × Datum)}
    (alike : List.Forall₂ (Keyed Rewrapped) entries others) :
    (Datum.mapping entries).Interchangeable (.mapping others) := by
  apply interchangeable_of_lookup (if entries.isEmpty then .undefined else .mapping) rfl
  · rw [isEmpty_eq_of_forall₂ alike]
    rfl
  · intro operator var writer
    rw [Value.writeTo_entries, isEmpty_eq_of_forall₂ alike, Value.writeTo_entries,
      presentEntries_rewrapped alike]
  · intro key
    exact find?_keyed (forall₂_interchangeable alike) (isText key)

/-- Data are interchangeable with those whose parts wrap theirs. -/
theorem PartsRewrapped.interchangeable (rewrapped : datum.PartsRewrapped other) :
    datum.Interchangeable other := by
  cases rewrapped with
  | whole => exact .of_eq rfl
  | @collection shape members others alike =>
      exact (hasMembers_collection shape members).interchangeable
        (hasMembers_collection shape others) (presentTexts_rewrapped alike)
  | namedTuple name alike => exact interchangeable_namedTuple name alike
  | mapping alike => exact interchangeable_mapping alike

theorem Enveloped.interchangeable (enveloped : datum.Enveloped other) :
    datum.Interchangeable other := by
  rcases enveloped with ⟨inner, parts, outer⟩
  exact parts.interchangeable.trans outer.interchangeable

end Datum

/-- Wrappings are transparent. In a context the values may be wrapped, and so may the members and
the entry values in them, and every template expands as before. A value with a forced kind may be
anywhere in the context, but nothing is put around it. -/
theorem expand_rewrapped {entries others : List (Datum × Datum)}
    (enveloped : List.Forall₂ (Keyed Datum.Enveloped) entries others) (text : Text) :
    expand text (.mapping others) = expand text (.mapping entries) := by
  have alike : List.Forall₂ (Keyed Datum.Interchangeable) entries others :=
    enveloped.imp (Keyed.imp fun _ _ => Datum.Enveloped.interchangeable)
  have made (entries : List (Datum × Datum)) : Value.of (.mapping entries) =
      .ok ⟨.mapping entries, if entries.isEmpty then .undefined else .mapping⟩ := rfl
  rw [expand, expand, made, made]
  cases Template.parse text with
  | error failure => rfl
  | ok template =>
      have same (kind other : Kind) : template.expand ⟨.mapping entries, kind⟩ =
          template.expand ⟨.mapping others, other⟩ := by
        apply Template.expand_eq_of_interchangeable
        intro name
        exact find?_keyed alike (Datum.isText name)
      exact congrArg (Except.mapError ExpandError.ofShape) (same _ _).symm

/-- A list in a value in an enumeration member, with one member wrapped twice and nothing in another
one, and a mapping with a wrapped value that a path leads to. -/
theorem expand_rewrapped_both :
    let entries : List (Datum × Datum) :=
      [(.text "x", .collection .list [.text "a", .null, .int 1]),
        (.text "m", .mapping [(.text "k", .collection .tuple [.bool true, .text "b"])])]
    let others : List (Datum × Datum) :=
      [(.text "x", .member "E" "A" (.wrapped (.collection .list
          [.wrapped (.text "a") .scalar, .member "E" "B" (.wrapped .null .undefined),
            .member "F" "A" (.member "G" "A" (.int 1))]) .list)),
        (.text "m", .mapping
          [(.text "k", .member "E" "C" (.collection .tuple [.bool true, .text "b"]))])]
    List.Forall₂ (Keyed Datum.Enveloped) entries others ∧
      expand "\x7bx,m.k\x7d\x7b?x*,m*\x7d" (.mapping others) =
        expand "\x7bx,m.k\x7d\x7b?x*,m*\x7d" (.mapping entries) := by
  intro entries others
  have plain {datum : Datum} (other : ∀ value : Value, datum ≠ value.toDatum) : datum.Unforced :=
    fun value same => absurd same (other value)
  have made {datum : Datum} {kind : Kind} (found : Value.of datum = .ok ⟨datum, kind⟩) :
      datum.WrappedBy (.wrapped datum kind) :=
    .value .self found
  have enveloped : List.Forall₂ (Keyed Datum.Enveloped) entries others := by
    let members : List Datum :=
      [.wrapped (.text "a") .scalar, .member "E" "B" (.wrapped .null .undefined),
        .member "F" "A" (.member "G" "A" (.int 1))]
    refine .cons ⟨rfl, .collection .list members,
        .collection .list (.cons ?first (.cons ?second (.cons ?third .nil))), ?_⟩
      (.cons ⟨rfl, (others[1]).2, .mapping (.cons ⟨rfl, ?value⟩ .nil), .inl rfl⟩ .nil)
    case first => exact .inr ⟨plain (fun _ => nofun), made rfl⟩
    case second => exact .inr ⟨plain (fun _ => nofun), .member (made rfl)⟩
    case third => exact .inr ⟨plain (fun _ => nofun), .member (.member .self)⟩
    case value => exact .inr ⟨plain (fun _ => nofun), .member .self⟩
    exact .inr ⟨plain (fun _ => nofun), .member (made rfl)⟩
  exact ⟨enveloped, expand_rewrapped enveloped _⟩

/-- A text as a value with the forced kind of a list is written by its characters, but an
enumeration member around that value is written as the text. -/
theorem expand_rewrapped_forced :
    let value : Datum := .wrapped (.text "ab") .list
    value.WrappedBy (.member "E" "A" value) ∧
      expand "\x7bx\x7d" (.mapping [(.text "x", value)]) = .ok "a,b" ∧
      expand "\x7bx\x7d" (.mapping [(.text "x", .member "E" "A" value)]) = .ok "ab" := by
  intro value
  have parsed : Template.parse "\x7bx\x7d" =
      .ok ⟨[.expression ⟨.simple, [⟨["x"], none, by simp⟩], by simp⟩]⟩ := by
    rw [Template.parse_eq_read]
    rfl
  refine ⟨.member .self, ?_, ?_⟩
  · rw [expand, parsed]
    rfl
  · rw [expand, parsed]
    rfl

end UriTemplate
