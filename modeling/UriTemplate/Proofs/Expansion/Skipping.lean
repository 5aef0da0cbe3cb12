import UriTemplate.Expand
import UriTemplate.Proofs.Expansion.Decoding
import UriTemplate.Proofs.Expansion.Interchange
import UriTemplate.Proofs.Expansion.Splitting
import UriTemplate.Proofs.Template.Simulation

/-!
# Skipped members

The missing members of a list are skipped: they give no elements, and without them there are the
same expansions. That a member counts as undefined is another matter. An empty collection or mapping
in a list does so, but it is not missing, and it is written. So the undefined members of a list can
be left out exactly if all of them are missing, or if the list has no texts without them either.
-/

set_option autoImplicit false

namespace UriTemplate

namespace Datum

/-- Whether there is nothing in a datum, whatever is around it. -/
def isMissing (datum : Datum) : Bool :=
  match Value.of datum with
  | .ok value => value.raw.isNull
  | .error _ => false

/-- Whether a datum counts as undefined. -/
def isUndefined (datum : Datum) : Bool :=
  match Value.of datum with
  | .ok value => !value.isDefined
  | .error _ => false

variable {datum : Datum} {value : Value} {members : List Datum} {values : List Value}

theorem isMissing_of_made (made : Value.of datum = .ok value) :
    datum.isMissing = value.raw.isNull := by
  rw [isMissing, made]

theorem isUndefined_of_made (made : Value.of datum = .ok value) :
    datum.isUndefined = !value.isDefined := by
  rw [isUndefined, made]

theorem presentValues_of_made (made : members.mapM Value.of = .ok values) :
    presentValues members = .ok (values.filter fun value => !value.raw.isNull) := by
  rw [presentValues, made]
  rfl

/-- Missing members have no part in the values that are present. -/
theorem presentValues_filter {drops : Datum → Bool}
    (missing : ∀ member ∈ members, drops member = true → member.isMissing = true) :
    presentValues (members.filter fun member => !drops member) = presentValues members := by
  apply mapM_filter_of_dropped
  intro member inside dropped
  have nothing := missing member inside ((Bool.not_eq_false' _).mp dropped)
  rw [isMissing] at nothing
  cases made : Value.of member with
  | error error =>
      rw [made] at nothing
      cases nothing
  | ok value =>
      rw [made] at nothing
      exact ⟨value, rfl, (Bool.not_eq_false' _).mpr nothing⟩

theorem presentTexts_filter {drops : Datum → Bool}
    (missing : ∀ member ∈ members, drops member = true → member.isMissing = true) :
    presentTexts (members.filter fun member => !drops member) = presentTexts members := by
  rw [presentTexts, presentTexts, presentValues_filter missing]

/-- The values that are present without the undefined members. -/
theorem presentValues_filter_isUndefined (made : members.mapM Value.of = .ok values) :
    presentValues (members.filter fun member => !member.isUndefined) =
      .ok ((values.filter Value.isDefined).filter fun value => !value.raw.isNull) := by
  apply presentValues_of_made
  apply mapM_filter made
  intro member _ value found
  rw [isUndefined_of_made found, Bool.not_not]

/-- The texts of a list fail with the first number that is wrong in one of its elements. -/
theorem failsWith_presentTexts (made : presentValues members = .ok values) :
    FailsWith (presentTexts members) (values.findSome? fun value => value.raw.textFault?) := by
  rw [presentTexts, made]
  exact failsWith_mapM fun value _ => failsWith_scalarText value.raw

/-- With an element that has no text a list has no texts either. -/
theorem presentTexts_of_textFault? (made : presentValues members = .ok values)
    (inside : value ∈ values) (faulty : value.raw.textFault? ≠ none) :
    presentTexts members = .error .tooManyDigits := by
  rw [failsWith_presentTexts made]
  cases first : values.findSome? fun value => value.raw.textFault? with
  | none => exact absurd (List.findSome?_eq_none_iff.mp first value inside) faulty
  | some error =>
      obtain ⟨other, _, wrong⟩ := List.exists_of_findSome?_eq_some first
      rw [eq_of_textFault? wrong]

/-- As many texts as there are elements. -/
theorem length_of_presentTexts {texts : List Text} (made : presentValues members = .ok values)
    (shown : presentTexts members = .ok texts) : texts.length = values.length := by
  rw [presentTexts, made] at shown
  exact length_of_mapM shown

end Datum

/-! ## Counting elements -/

/-- Under the operator for paths each item stands behind a slash, and a text has none. -/
theorem Operator.count_slash_layout (texts : List Text) :
    (Operator.path.layout (texts.map fun text => ⟨none, .single text⟩)).count ('/' : CodePoint) =
      texts.length := by
  have each (text : Text) : (Operator.path.separator ++
      Item.written .path ⟨none, .single text⟩).count ('/' : CodePoint) = 1 := by
    have clean : (Percent.escape .allButUnreserved text).count ('/' : CodePoint) = 0 :=
      List.count_eq_zero.mpr (Delimiter.slash.not_mem_escape text)
    have written : Item.written .path ⟨none, .single text⟩ =
        Percent.escape .allButUnreserved text := rfl
    rw [written, List.count_append, clean]
    rfl
  have all : (texts.map fun text => (Operator.path.separator ++
      Item.written .path ⟨none, .single text⟩).count ('/' : CodePoint)).sum = texts.length := by
    simp [each]
  rw [Operator.layout_of_mem_separatorFirst (by decide), List.flatMap_map, List.count_flatMap]
  exact all

namespace Template

/-- The template with one variable, which writes each element of a list behind a slash. -/
def slashed (names : List Text) (nonempty : names ≠ []) : Template :=
  ⟨[.expression ⟨.path, [⟨names, some .explode, nonempty⟩], by simp⟩]⟩

theorem noneAbove_slashed (names : List Text) (nonempty : names ≠ []) :
    (slashed names nonempty).NoneAbove names := by
  intro expression member var inside _
  rw [List.mem_singleton.mp member] at inside
  rw [List.mem_singleton.mp inside]

theorem expand_slashed (names : List Text) (nonempty : names ≠ []) (data : Value) :
    (slashed names nonempty).expand data =
      (Variable.write .path data .empty ⟨names, some .explode, nonempty⟩).map
        (ItemWriter.finish .path) := by
  have alone (body : Expression) :
      expand ⟨[.expression body]⟩ data = (body.expand data).map fun text => [text].flatten := by
    rw [expand, List.mapM_cons, Part.expand]
    cases body.expand data <;> rfl
  rw [slashed, alone, Expression.expand, exceptMap_map, List.foldlM_cons]
  cases Variable.write .path data .empty ⟨names, some .explode, nonempty⟩ with
  | error error => rfl
  | ok writer => exact congrArg Except.ok (List.append_nil _)

/-- In a context that leads to a list, that template has an item for each text of the list. -/
theorem expand_slashed_of_leads {context : Datum} {value : Value} {names : List Text}
    {members : List Datum} (nonempty : names ≠ []) (made : Value.of context = .ok value)
    (defined : value.isDefined = true)
    (leads : ∀ var writer, context.writeFrom .path var names writer =
      (Datum.presentTexts members).map fun texts =>
        .writeItems .path (var.items .path (.list texts)) writer) :
    Value.of context >>= (slashed names nonempty).expand =
      (Datum.presentTexts members).map fun texts =>
        Operator.path.layout (texts.map fun text => ⟨none, .single text⟩) := by
  have expanded := expand_slashed names nonempty value
  rw [Datum.write_eq_writeFrom made defined, leads, exceptMap_map] at expanded
  rw [made]
  refine expanded.trans ?_
  congr 1
  funext texts
  rw [Function.comp_apply, ItemWriter.finish_writeItems, Variable.items]
  split
  next none =>
    rw [none]
    rfl
  next => rfl

end Template

/-- If a filter passes as many of those that another one passes as of all, those that it passes are
passed by both. -/
theorem passes_of_length_filter {α : Type} {first second : α → Bool} {list : List α}
    (same : ((list.filter first).filter second).length = (list.filter second).length) :
    ∀ element ∈ list, second element = true → first element = true := by
  have part : ((list.filter first).filter second).Sublist (list.filter second) :=
    List.filter_sublist.filter second
  have equal := part.eq_of_length same
  intro element member passes
  have inside : element ∈ (list.filter first).filter second := by
    rw [equal]
    exact List.mem_filter.mpr ⟨member, passes⟩
  exact (List.mem_filter.mp (List.mem_filter.mp inside).1).2

/-- Two filters pass the same if they agree on each element. -/
theorem filter_eq_filter_iff {α : Type} {first second : α → Bool} {list : List α} :
    list.filter first = list.filter second ↔ ∀ element ∈ list, first element = second element := by
  constructor
  · intro same element member
    have both : element ∈ list.filter first ↔ element ∈ list.filter second := by rw [same]
    rw [List.mem_filter, List.mem_filter] at both
    exact Bool.eq_iff_iff.mpr (by simpa [member] using both)
  · exact List.filter_congr

namespace Template

variable {shape : Collection} {members : List Datum} {values : List Value} {names : List Text}
  {left right : Datum}

/-- If without the undefined members the expansions are the same, no more is left out than what is
missing, unless there is no expansion: the elements can be counted in it. -/
theorem isMissing_of_expand_eq (nonempty : names ≠ []) (made : members.mapM Value.of = .ok values)
    {texts : List Text}
    (shown : Datum.presentTexts (members.filter fun member => !member.isUndefined) = .ok texts)
    (except : Datum.SameExcept shape members (members.filter fun member => !member.isUndefined)
      names left right)
    (same : Value.of left >>= (slashed names nonempty).expand =
      Value.of right >>= (slashed names nonempty).expand) :
    ∀ member ∈ members, member.isUndefined = true → member.isMissing = true := by
  obtain ⟨outer, inner, ⟨leftMade, leftDefined⟩, rightMade, rightDefined⟩ :=
    except.exists_made nonempty
  rw [expand_slashed_of_leads nonempty leftMade leftDefined fun _ _ => except.writeFrom_names.1,
    expand_slashed_of_leads nonempty rightMade rightDefined fun _ _ => except.writeFrom_names.2,
    shown] at same
  obtain ⟨all, shownAll, layout⟩ := exceptMap_ok.mp same
  -- Both are layouts of as many items as there are texts, and each item has one slash.
  have counts : texts.length = all.length := by
    rw [← Operator.count_slash_layout, ← Operator.count_slash_layout all, layout]
  rw [Datum.length_of_presentTexts (Datum.presentValues_filter_isUndefined made) shown,
    Datum.length_of_presentTexts (Datum.presentValues_of_made made) shownAll] at counts
  have passes := passes_of_length_filter counts
  intro member inside undefined
  rcases exists_mem_of_mapM made member inside with ⟨value, there, found⟩
  rw [Datum.isUndefined_of_made found, Bool.not_eq_true'] at undefined
  rw [Datum.isMissing_of_made found]
  cases missing : value.raw.isNull with
  | true => rfl
  | false =>
      have isDefined := passes value there ((Bool.not_eq_true' _).mpr missing)
      rw [undefined] at isDefined
      cases isDefined

/-- A member that is neither undefined nor missing is present with and without the undefined ones.
If it has no text, there are no texts in either case. -/
theorem presentTexts_eq_of_textFault? (made : members.mapM Value.of = .ok values) {member : Datum}
    (inside : member ∈ members) (isDefined : member.isUndefined = false)
    (isPresent : member.isMissing = false) (faulty : member.textFault? ≠ none) :
    Datum.presentTexts members =
      Datum.presentTexts (members.filter fun member => !member.isUndefined) := by
  obtain ⟨value, there, found⟩ := exists_mem_of_mapM made member inside
  rw [Datum.isUndefined_of_made found, Bool.not_eq_false'] at isDefined
  rw [Datum.isMissing_of_made found] at isPresent
  rw [← Datum.textFault?_of_made found] at faulty
  rw [Datum.presentTexts_of_textFault? (Datum.presentValues_of_made made)
      (by simp [there, isPresent]) faulty,
    Datum.presentTexts_of_textFault? (Datum.presentValues_filter_isUndefined made)
      (by simp [there, isDefined, isPresent]) faulty]

/-- If there are no texts without the undefined members, one of the other members has none. -/
theorem exists_textFault?_of_error (made : members.mapM Value.of = .ok values) {error : ShapeError}
    (failed : Datum.presentTexts (members.filter fun member => !member.isUndefined) =
      .error error) :
    ∃ member ∈ members, member.isUndefined = false ∧ member.isMissing = false ∧
      member.textFault? ≠ none := by
  have faulty := (Datum.failsWith_presentTexts (Datum.presentValues_filter_isUndefined made)
    error).mp failed
  obtain ⟨value, inside, wrong⟩ := List.exists_of_findSome?_eq_some faulty
  simp only [List.mem_filter, Bool.not_eq_true'] at inside
  obtain ⟨⟨there, isDefined⟩, isPresent⟩ := inside
  obtain ⟨member, memberInside, found⟩ := exists_of_mapM made value there
  refine ⟨member, memberInside, ?_, ?_, ?_⟩
  · rw [Datum.isUndefined_of_made found, isDefined]
    rfl
  · rw [Datum.isMissing_of_made found, isPresent]
  · rw [← Datum.textFault?_of_made found, wrong]
    exact Option.some_ne_none _

/-- Members are skipped if they are missing, not if they are undefined. The elements of a list are
the values of its members in order, but for those in which there is nothing; that are the defined
ones exactly if there is nothing in those that are undefined and in no others. Wherever a list is in
a context, be it below or in enumeration members and wrappings, its missing members can be left out
without a difference to any expansion in which no variable ends above the list, and none does if it
is an entry of the context. All its undefined members can be left out so exactly if there is nothing
in any of them, or if another member has no text, so that the list has no expansion at all. -/
theorem members_skipped_iff_missing (members : List Datum) :
    (∀ raw values, Datum.members raw = .ok members → members.mapM Value.of = .ok values →
      Value.elements ⟨raw, .list⟩ = .ok (values.filter fun value => !value.raw.isNull) ∧
      (Value.elements ⟨raw, .list⟩ = .ok (values.filter Value.isDefined) ↔
        ∀ value ∈ values, value.raw.isNull = !value.isDefined)) ∧
    (∀ shape names left right, names ≠ [] →
      Datum.SameExcept shape members (members.filter fun member => !member.isMissing) names
        left right →
      ∀ template : Template, template.NoneAbove names →
        Value.of left >>= template.expand = Value.of right >>= template.expand) ∧
    (∀ (template : Template) name, template.NoneAbove [name]) ∧
    ∀ shape values names left right, names ≠ [] → members.mapM Value.of = .ok values →
      Datum.SameExcept shape members (members.filter fun member => !member.isUndefined) names
        left right →
      ((∀ template : Template, template.NoneAbove names →
          Value.of left >>= template.expand = Value.of right >>= template.expand) ↔
        (∀ member ∈ members, member.isUndefined = true → member.isMissing = true) ∨
          ∃ member ∈ members, member.isUndefined = false ∧ member.isMissing = false ∧
            member.textFault? ≠ none) := by
  refine ⟨?_, ?_, noneAbove_singleton, ?_⟩
  · intro raw values listed made
    have elements : Value.elements ⟨raw, .list⟩ =
        .ok (values.filter fun value => !value.raw.isNull) := by
      rw [Value.elements_of_members listed, Datum.presentValues_of_made made]
    refine ⟨elements, ?_⟩
    rw [elements, Except.ok.injEq, filter_eq_filter_iff]
    simp only [Bool.not_eq_eq_eq_not]
  · intro shape names left right nonempty except template noneAbove
    have same := Datum.presentTexts_filter fun (member : Datum) (_ : member ∈ members) => id
    exact except.expand_eq nonempty same.symm noneAbove
  · intro shape values names left right nonempty made except
    constructor
    · intro same
      cases shown : Datum.presentTexts (members.filter fun member => !member.isUndefined) with
      | error error => exact .inr (exists_textFault?_of_error made shown)
      | ok texts =>
          left
          apply isMissing_of_expand_eq nonempty made shown except
          exact same _ (noneAbove_slashed names nonempty)
    · rintro (missing | ⟨member, inside, isDefined, isPresent, faulty⟩) template noneAbove
      · exact except.expand_eq nonempty (Datum.presentTexts_filter missing).symm noneAbove
      · have same := presentTexts_eq_of_textFault? made inside isDefined isPresent faulty
        exact except.expand_eq nonempty same noneAbove

/-- A list that was wrapped before, in an enumeration member, with a missing member and an empty
one. -/
theorem members_skipped_iff_missing_below :
    let whole : List Datum := [.text "a", .member "E" "A" .null, .mapping []]
    let context (members : List Datum) : Datum := .mapping [(.int 1, .null), (.text "m",
      .member "E" "M" (.mapping [(.text "x", .wrapped (.collection .tuple members) .list)]))]
    let template : Template := ⟨[.expression ⟨.query, [⟨["m", "x"], none, by simp⟩], by simp⟩]⟩
    Value.elements ⟨.collection .tuple whole, .list⟩ =
        .ok [⟨.text "a", .scalar⟩, ⟨.mapping [], .undefined⟩] ∧
      whole.filter (fun member => !member.isMissing) = [.text "a", .mapping []] ∧
      whole.filter (fun member => !member.isUndefined) = [.text "a"] ∧
      template.NoneAbove ["m", "x"] ∧
      Value.of (context whole) >>= template.expand =
        Value.of (context [.text "a", .mapping []]) >>= template.expand ∧
      ¬∀ other : Template, other.NoneAbove ["m", "x"] →
        Value.of (context whole) >>= other.expand =
          Value.of (context [.text "a"]) >>= other.expand := by
  intro whole context template
  have made : whole.mapM Value.of =
      .ok [⟨.text "a", .scalar⟩, ⟨.null, .undefined⟩, ⟨.mapping [], .undefined⟩] := rfl
  have wrapped (members : List Datum) :
      (Datum.wrapped (.collection .tuple members) .list).HasMembers .tuple members :=
    ⟨.list, rfl, .inl rfl⟩
  have differ (first second : List Datum) :
      Datum.SameExcept .tuple first second ["m", "x"] (context first) (context second) :=
    .entry [(.int 1, .null)] [] rfl rfl rfl
      (.entry [] [] rfl rfl rfl (.here (wrapped first) (wrapped second)))
  have noneAbove : template.NoneAbove ["m", "x"] := by
    intro expression member var inside _
    rw [List.mem_singleton.mp member] at inside
    rw [List.mem_singleton.mp inside]
  refine ⟨((members_skipped_iff_missing whole).1 _ _ rfl made).1, rfl, rfl, noneAbove, ?_, ?_⟩
  · exact (members_skipped_iff_missing whole).2.1 .tuple _ _ _ (by simp) (differ _ _) _ noneAbove
  · intro same
    rcases ((members_skipped_iff_missing whole).2.2.2 .tuple _ _ _ _ (by simp) made
      (differ _ _)).mp same with missing | ⟨member, inside, _, _, faulty⟩
    · cases missing (.mapping []) (by simp [whole]) rfl
    · have shown : ∀ member ∈ whole, member.textFault? = none := by
        simp only [whole, List.forall_mem_cons, List.not_mem_nil, false_imp_iff, implies_true,
          and_true]
        exact ⟨rfl, rfl, rfl⟩
      exact faulty (shown member inside)

end Template

/-- An empty list counts as undefined, also in a list, but there it is written. -/
theorem expand_undefined_member :
    Datum.isUndefined (.collection .list []) = true ∧
      expand "\x7bx\x7d" (.mapping
        [(.text "x", .collection .list [.text "a", .collection .list []])]) =
        .ok "a,%5B%5D" ∧
      expand "\x7bx\x7d" (.mapping [(.text "x", .collection .list [.text "a"])]) = .ok "a" := by
  have parsed : Template.parse "\x7bx\x7d" =
      .ok ⟨[.expression ⟨.simple, [⟨["x"], none, by simp⟩], by simp⟩]⟩ := by
    rw [Template.parse_eq_read]
    rfl
  refine ⟨rfl, ?_, ?_⟩
  · rw [expand, parsed]
    exact congrArg Except.ok (by decide +kernel)
  · rw [expand, parsed]
    rfl

end UriTemplate
