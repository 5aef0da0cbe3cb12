import UriTemplate.Expansion
import UriTemplate.Proofs.Datum.Genuine

/-!
# The layout of an expansion

An expansion is described here without a writer. Genuine data have a content: nothing, a text,
the texts of a list, or the texts of the entries of a mapping. A content gives a variable some
items, and an expression has the items of all its variables in order. Without items it expands
to nothing, and else to the prefix of its operator and the items with separators between them.
The writer counts its items to the same end, whatever the variables give.
-/

set_option autoImplicit false

namespace UriTemplate

/-! ## Content -/

/-- What there is to write of a datum. -/
inductive Content where
  | undefined
  | scalar (text : Text)
  | list (texts : List Text)
  | mapping (entries : List (Text × Text))
  deriving DecidableEq, Repr

namespace Datum

/-- Whether a datum is a range that is longer than any length. Such a range has no value. -/
def isOverlong (datum : Datum) : Bool :=
  match datum.bare with
  | .range start stop step => decide (Index.bound ≤ rangeLength start stop step)
  | _ => false

/-- The texts of members, without the missing ones. -/
def texts (members : List Datum) : Except ShapeError (List Text) :=
  if members.any isOverlong then .error .tooLong
  else (members.filter fun member => !member.bare.isNull).mapM scalarText

/-- The texts of the key and the value of an entry, unless it has no value. -/
def entryText? (entry : Datum × Datum) : Except ShapeError (Option (Text × Text)) :=
  if entry.2.isOverlong then .error .tooLong
  else if entry.2.bare.isNull then .ok none
  else do
    let key ← entry.1.scalarText
    return some (key, ← entry.2.scalarText)

/-- The texts of entries, without those that have no value. -/
def entryTexts (entries : List (Datum × Datum)) : Except ShapeError (List (Text × Text)) :=
  (entries.mapM entryText?).map (List.filterMap id)

/-- The content of a bare datum. -/
def content : Datum → Except ShapeError Content
  | .null => .ok .undefined
  | .collection _ members => (texts members).map .list
  | .range start stop step => (texts (rangeMembers start stop step)).map .list
  | .namedTuple _ fields => (texts (fields.map (·.2))).map .list
  | .mapping entries => (entryTexts entries).map .mapping
  | datum => datum.scalarText.map .scalar

end Datum

/-! ## Items -/

namespace Item

/-- What stands before the value of an item: the name of a variable as it is in the template,
or the key of an entry. -/
inductive Key where
  | name (text : Text)
  | entry (text : Text)
  deriving DecidableEq, Repr

/-- The value of an item: one text, or several texts in one. -/
inductive Payload where
  | single (text : Text)
  | joined (texts : List Text)
  deriving DecidableEq, Repr

end Item

/-- An item of an expansion. -/
structure Item where
  key : Option Item.Key
  payload : Item.Payload
  deriving DecidableEq, Repr

namespace Item

/-- Only the keys of entries are percent-encoded. -/
def Key.written (operator : Operator) : Key → Text
  | name text => text
  | entry text => Percent.escape operator.mask text

/-- The texts of a value are percent-encoded one by one. -/
def Payload.written (operator : Operator) : Payload → Text
  | single text => Percent.escape operator.mask text
  | joined texts => ([','] : Text).intercalate (texts.map (Percent.escape operator.mask))

/-- An item as it stands in an expansion. An empty value under a named operator has the suffix
of the operator in the place of the equals sign. -/
def written (operator : Operator) (item : Item) : Text :=
  let value := item.payload.written operator
  match item.key with
  | none => value
  | some key =>
      key.written operator ++
        (if operator.named ∧ value = [] then operator.ifEmpty else ['=']) ++ value

end Item

namespace Variable

/-- The key of the items of a variable that are no entries. -/
def label (operator : Operator) (var : Variable) : Option Item.Key :=
  if operator.named then some (.name var.name) else none

/-- What a variable has of a text: as many characters as its length allows, if it has one. -/
def limited (var : Variable) (text : Text) : Text :=
  match var.modifier with
  | some (.maxLength length) => text.take length.value
  | _ => text

/-- The items that a variable has for a content. -/
def items (operator : Operator) (var : Variable) : Content → List Item
  | .undefined => []
  | .scalar text => [⟨var.label operator, .single (var.limited text)⟩]
  | .list texts =>
      if texts = [] then []
      else if var.explodes then texts.map fun text => ⟨var.label operator, .single text⟩
      else [⟨var.label operator, .joined (texts.map var.limited)⟩]
  | .mapping entries =>
      if entries = [] then []
      else if var.explodes then
        entries.map fun entry => ⟨some (.entry entry.1), .single entry.2⟩
      else [⟨var.label operator, .joined (entries.flatMap fun entry => [entry.1, entry.2])⟩]

/-- The items that a variable has in the data. -/
def itemsIn (operator : Operator) (data : Value) (var : Variable) :
    Except ShapeError (List Item) := do
  let value ← data.resolve var.path
  let content ← value.raw.content
  return var.items operator content

end Variable

/-- The items of an expression: those of its variables in order. -/
def Expression.items (expression : Expression) (data : Value) :
    Except ShapeError (List Item) :=
  (expression.vars.mapM (Variable.itemsIn expression.operator data)).map List.flatten

/-- An expansion with given items. -/
def Operator.layout (operator : Operator) (items : List Item) : Text :=
  if items = [] then []
  else operator.first ++ operator.separator.intercalate (items.map (Item.written operator))

/-! ## The writer -/

namespace ItemWriter

/-- Write an item as it stands in an expansion. -/
def append (operator : Operator) (writer : ItemWriter) (item : Text) : ItemWriter where
  written := writer.written ++ (if 0 < writer.count then operator.separator else []) ++ item
  count := writer.count + 1

theorem write_eq_append (operator : Operator) (writer : ItemWriter) (name payload : Text) :
    writer.write operator name payload = writer.append operator (itemText operator name payload) :=
  rfl

/-- Behind an item every item has a separator before it. -/
theorem foldl_append (operator : Operator) (items : List Text) (text : Text) (count : Nat) :
    items.foldl (append operator) ⟨text, count + 1⟩ =
      ⟨text ++ items.flatMap (operator.separator ++ ·), count + 1 + items.length⟩ := by
  induction items generalizing text count with
  | nil => simp
  | cons item rest ih =>
      have step : append operator ⟨text, count + 1⟩ item =
          ⟨text ++ operator.separator ++ item, count + 1 + 1⟩ := by
        rw [append, if_pos (Nat.succ_pos count)]
      rw [List.foldl_cons, step, ih, List.flatMap_cons, List.length_cons]
      simp only [List.append_assoc, Nat.add_assoc, Nat.add_comm 1]

theorem intercalate_eq_append {α : Type} (separator item : List α) (rest : List (List α)) :
    separator.intercalate (item :: rest) = item ++ rest.flatMap (separator ++ ·) := by
  induction rest generalizing item with
  | nil => simp
  | cons other rest ih =>
      rw [List.intercalate_cons_cons, ih, List.flatMap_cons, List.append_assoc, List.append_assoc]

/-- Write items one after the other. -/
def writeItems (operator : Operator) (items : List Item) (writer : ItemWriter) : ItemWriter :=
  (items.map (Item.written operator)).foldl (append operator) writer

theorem writeItems_singleton (operator : Operator) (item : Item) (writer : ItemWriter) :
    writeItems operator [item] writer = writer.append operator (item.written operator) := rfl

theorem writeItems_append (operator : Operator) (left right : List Item) (writer : ItemWriter) :
    writeItems operator (left ++ right) writer =
      writeItems operator right (writeItems operator left writer) := by
  rw [writeItems, List.map_append, List.foldl_append]
  rfl

/-- From the start, what is written are the items with separators between them. -/
theorem finish_writeItems (operator : Operator) (items : List Item) :
    finish operator (writeItems operator items empty) = operator.layout items := by
  cases items with
  | nil => rfl
  | cons item rest =>
      have first : append operator empty (item.written operator) =
          ⟨item.written operator, 0 + 1⟩ := rfl
      rw [writeItems, List.map_cons, List.foldl_cons, first, foldl_append, finish,
        Operator.layout, List.map_cons, intercalate_eq_append]
      simp

end ItemWriter

namespace Variable

theorem written_label (operator : Operator) (var : Variable) (payload : Item.Payload) :
    Item.written operator ⟨var.label operator, payload⟩ =
      ItemWriter.itemText operator var.name (payload.written operator) := by
  by_cases named : operator.named <;>
    simp [Item.written, label, ItemWriter.itemText, Item.Key.written, named]

theorem written_entry (operator : Operator) (var : Variable) (key value : Text) :
    Item.written operator ⟨some (.entry key), .single value⟩ =
      if operator.named then
        ItemWriter.itemText operator (Percent.escape operator.mask key)
          (Percent.escape operator.mask value)
      else ItemWriter.itemText operator var.name
        (Percent.escape operator.mask key ++
          ('=' : CodePoint) :: Percent.escape operator.mask value) := by
  by_cases named : operator.named <;>
    simp [Item.written, Item.Key.written, Item.Payload.written, ItemWriter.itemText, named]

variable {operator : Operator} {var : Variable}

/-- What a text is cut to is what its variable has of it. -/
theorem cut_maxLength? (var : Variable) (text : Text) :
    text.cut var.maxLength? = var.limited text := by
  rcases var with ⟨path, modifier, nonempty⟩
  rcases modifier with _ | length | _ <;> rfl

/-- Texts are cut and percent-encoded one by one. -/
theorem mapM_format (operator : Operator) (var : Variable) (elements : List Value) :
    elements.mapM (Value.format operator var.maxLength?) = (elements.mapM Value.text).map
      (List.map fun text => Percent.escape operator.mask (var.limited text)) := by
  rw [← mapM_map]
  simp only [← cut_maxLength?]
  rfl

/-- Texts that are written one by one are items of their own. -/
theorem foldl_write (texts : List Text) (writer : ItemWriter) :
    texts.foldl (fun writer text =>
        writer.write operator var.name (Percent.escape operator.mask text)) writer =
      .writeItems operator (texts.map fun text => ⟨var.label operator, .single text⟩) writer := by
  have alike : (fun (writer : ItemWriter) (text : Text) =>
      writer.write operator var.name (Percent.escape operator.mask text)) =
      fun writer text => writer.append operator
        (Item.written operator ⟨var.label operator, .single text⟩) := by
    funext writer text
    rw [written_label, ItemWriter.write_eq_append]
    rfl
  rw [alike, ItemWriter.writeItems, List.map_map, List.foldl_map]
  rfl

/-- A list is written as the items that a variable has for its texts. -/
theorem writeList_eq (elements : List Value) (writer : ItemWriter) :
    var.writeList operator elements writer = (elements.mapM Value.text).map fun texts =>
      .writeItems operator (var.items operator (.list texts)) writer := by
  cases elements with
  | nil => rfl
  | cons element rest =>
      rw [writeList, List.isEmpty_cons, if_neg Bool.false_ne_true]
      by_cases explodes : var.explodes
      · have each : (fun (writer : ItemWriter) (element : Value) =>
            (element.format operator none).map (writer.write operator var.name)) =
            fun writer element => element.text.map fun text =>
              writer.write operator var.name (Percent.escape operator.mask text) := by
          funext writer element
          exact exceptMap_map _ _ _
        rw [if_pos explodes, each, foldlM_eq_mapM]
        congr 1
        funext texts
        rw [foldl_write, items, if_pos explodes]
        split
        next none => rw [none, List.map_nil]
        next => rfl
      · rw [if_neg explodes, mapM_format, exceptMap_map]
        cases found : (element :: rest).mapM Value.text with
        | error error => rfl
        | ok texts =>
            rcases exists_of_mapM_cons found with ⟨first, more, _, _, rfl⟩
            refine congrArg Except.ok ?_
            dsimp only [Function.comp_apply]
            rw [items, if_neg (List.cons_ne_nil first more), if_neg explodes,
              ItemWriter.writeItems_singleton, written_label, ItemWriter.write_eq_append,
              Item.Payload.written, List.map_map]
            rfl

/-- The texts of an entry as they are written. -/
def escapedEntry (operator : Operator) (entry : Text × Text) : Text × Text :=
  (Percent.escape operator.mask entry.1, Percent.escape operator.mask entry.2)

/-- A mapping is written as the items that a variable has for its entries. -/
theorem writeMapping_eq (entries : List (Text × Text)) (writer : ItemWriter) :
    var.writeMapping operator (entries.map (escapedEntry operator)) writer =
      .writeItems operator (var.items operator (.mapping entries)) writer := by
  cases entries with
  | nil => rfl
  | cons entry rest =>
      rw [writeMapping, items, List.map_cons, List.isEmpty_cons, if_neg Bool.false_ne_true,
        if_neg (List.cons_ne_nil entry rest), ← List.map_cons]
      by_cases explodes : var.explodes
      · have alike : (fun (writer : ItemWriter) (entry : Text × Text) =>
            if operator.named then
              writer.write operator (escapedEntry operator entry).1
                (escapedEntry operator entry).2
            else writer.write operator var.name
              ((escapedEntry operator entry).1 ++
                ('=' : CodePoint) :: (escapedEntry operator entry).2)) =
            fun writer entry => writer.append operator
              (Item.written operator ⟨some (.entry entry.1), .single entry.2⟩) := by
          funext writer entry
          rw [written_entry operator var]
          split <;> rfl
        rw [if_pos explodes, if_pos explodes, List.foldl_map, alike, ItemWriter.writeItems,
          List.map_map, List.foldl_map]
        rfl
      · rw [if_neg explodes, if_neg explodes, ItemWriter.writeItems_singleton, written_label,
          ItemWriter.write_eq_append, Item.Payload.written, List.flatMap_map, List.map_flatMap]
        rfl

end Variable

/-! ## Genuine data -/

namespace Datum

/-- The kind that the shape of a datum has, if it has one. -/
def shapeKind (datum : Datum) : Kind :=
  match datum.classify with
  | .ok kind => kind
  | .error _ => .undefined

/-- The bare datum with the kind of its shape. -/
def bareValue (datum : Datum) : Value :=
  ⟨datum.bare, datum.bare.shapeKind⟩

theorem classify_bare (datum : Datum) :
    datum.bare.classify =
      if datum.isOverlong then .error .tooLong else .ok datum.bare.shapeKind := by
  rw [isOverlong, shapeKind]
  cases datum.bare with
  | range start stop step =>
      simp only [classify]
      split <;> simp_all
  | _ => rfl

/-- A genuine datum has a value unless it is overlong. -/
theorem Genuine.of_eq {datum : Datum} (genuine : datum.Genuine) :
    Value.of datum = if datum.isOverlong then .error .tooLong else .ok datum.bareValue := by
  rw [Value.of_eq genuine, classify_bare]
  cases datum.isOverlong <;> rfl

theorem text_bareValue (datum : Datum) : datum.bareValue.text = datum.scalarText := by
  simp only [bareValue, Value.text, scalarText, bare_bare]

/-- The kind of a range is that of the list of its members. -/
theorem classify_range (start stop step : Int) :
    classify (.range start stop step) =
      if Index.bound ≤ rangeLength start stop step then .error .tooLong
      else .ok (if (rangeMembers start stop step).isEmpty then .undefined else .list) := by
  have noMembers : (rangeMembers start stop step).isEmpty ↔ rangeLength start stop step = 0 := by
    simp [rangeMembers]
  simp only [classify, noMembers]

/-- The values of members, without those that are missing. -/
def presentValues (members : List Datum) : Except ShapeError (List Value) :=
  (members.mapM Value.of).map fun values => values.filter fun value => !value.raw.isNull

/-- The texts of members, without those that are missing. -/
def presentTexts (members : List Datum) : Except ShapeError (List Text) := do
  (← presentValues members).mapM Value.text

/-- The texts of entries, without those that are missing. -/
def presentEntries (entries : List (Datum × Datum)) : Except ShapeError (List (Text × Text)) :=
  (entries.mapM (Value.useEntry fun key item => item.text.map fun text => (key, text))).map
    (List.filterMap id)

/-- The members of a genuine list, by their texts. -/
theorem texts_eq {members : List Datum} (genuine : ∀ member ∈ members, member.Genuine) :
    presentTexts members = texts members := by
  rw [presentTexts, presentValues, mapM_ite fun member inside => (genuine member inside).of_eq,
    texts]
  cases members.any isOverlong with
  | true => rfl
  | false =>
      have alike : Value.text ∘ bareValue = scalarText := by
        funext member
        exact text_bareValue member
      have split (present : List Datum) :
          (present.map bareValue).mapM Value.text = present.mapM scalarText := by
        rw [List.mapM_map, alike]
      rw [if_neg Bool.false_ne_true, if_neg Bool.false_ne_true, Except.map, List.filter_map]
      exact split _

/-- The entries of a genuine mapping, by their texts. -/
theorem entryTexts_eq {entries : List (Datum × Datum)}
    (genuine : ∀ entry ∈ entries, entry.2.Genuine) :
    presentEntries entries = entryTexts entries := by
  rw [presentEntries, entryTexts]
  congr 1
  apply mapM_congr
  intro entry member
  rw [Value.useEntry, (genuine entry member).of_eq, entryText?]
  cases entry.2.isOverlong with
  | true => rfl
  | false =>
      have missing : entry.2.bareValue.raw.isNull = entry.2.bare.isNull := rfl
      rw [if_neg Bool.false_ne_true, if_neg Bool.false_ne_true]
      simp only [bind, Except.bind, missing, text_bareValue]
      split
      · rfl
      · cases entry.1.scalarText with
        | error error => rfl
        | ok key => cases entry.2.scalarText <;> rfl

end Datum

namespace Value

variable {value : Value} {operator : Operator} {var : Variable}

/-- Write a value, whatever its kind. -/
def writeTo (operator : Operator) (var : Variable) (writer : ItemWriter) (value : Value) :
    Except ShapeError ItemWriter := do
  match value.kind with
  | .undefined => return writer
  | .list => var.writeList operator (← value.elements) writer
  | .mapping => return var.writeMapping operator (← value.formatItems operator) writer
  | .scalar =>
      return writer.write operator var.name (← value.format operator var.maxLength?)

theorem writeTo_scalar (raw : Datum) (writer : ItemWriter) :
    writeTo operator var writer ⟨raw, .scalar⟩ = (raw.scalarText.map Content.scalar).map
      fun content => .writeItems operator (var.items operator content) writer := by
  have written (text : Text) :
      ItemWriter.writeItems operator (var.items operator (.scalar text)) writer =
        writer.write operator var.name
          (Percent.escape operator.mask (text.cut var.maxLength?)) := by
    rw [Variable.items, ItemWriter.writeItems_singleton, Variable.written_label,
      ← ItemWriter.write_eq_append, Variable.cut_maxLength?]
    rfl
  simp only [exceptMap_map, Function.comp_def, written]
  rw [writeTo, format, text]
  cases raw.scalarText <;> rfl

/-- The elements of a list are the values of its members that are present. -/
theorem elements_of_members {raw : Datum} {members : List Datum}
    (listed : raw.members = .ok members) :
    elements ⟨raw, .list⟩ = Datum.presentValues members := by
  simp only [elements, listed]
  rfl

/-- A list is written by the texts of its elements. -/
theorem writeTo_presentTexts {raw : Datum} {members : List Datum}
    (listed : raw.members = .ok members) (writer : ItemWriter) :
    writeTo operator var writer ⟨raw, .list⟩ = (Datum.presentTexts members).map fun texts =>
      .writeItems operator (var.items operator (.list texts)) writer := by
  rw [Datum.presentTexts]
  simp only [writeTo, elements_of_members listed]
  cases Datum.presentValues members with
  | error error => rfl
  | ok elements => exact Variable.writeList_eq elements writer

/-- Without members a list is undefined, and nothing is written. -/
theorem writeTo_members {raw : Datum} {members : List Datum} (listed : raw.members = .ok members)
    (writer : ItemWriter) :
    writeTo operator var writer ⟨raw, if members.isEmpty then .undefined else .list⟩ =
      (Datum.presentTexts members).map fun texts =>
        .writeItems operator (var.items operator (.list texts)) writer := by
  cases members with
  | nil => rfl
  | cons member rest => exact writeTo_presentTexts listed writer

/-- What is made of an entry can be changed at the end. -/
theorem useEntry_map {α β : Type} (use : Text → Value → Except ShapeError α) (change : α → β)
    (entry : Datum × Datum) :
    useEntry (fun key item => (use key item).map change) entry =
      (useEntry use entry).map (Option.map change) := by
  rw [useEntry, useEntry]
  cases of entry.2 with
  | error error => rfl
  | ok item =>
      simp only [bind, Except.bind]
      split
      · rfl
      · cases entry.1.scalarText with
        | error error => rfl
        | ok key => cases found : use key item <;> simp [found, Except.map, pure, Except.pure]

/-- The entries of a mapping are written by their texts. -/
theorem formatItems_mapping (entries : List (Datum × Datum)) :
    formatItems operator ⟨.mapping entries, .mapping⟩ =
      (Datum.presentEntries entries).map (List.map (Variable.escapedEntry operator)) := by
  have each : (fun (key : Text) (item : Value) => (item.format operator none).map fun text =>
        (Percent.escape operator.mask key, text)) =
      fun key item => (item.text.map fun text => (key, text)).map
        (Variable.escapedEntry operator) := by
    funext key item
    rw [format, exceptMap_map, exceptMap_map]
    rfl
  have behind : List.filterMap id ∘ List.map (Option.map (Variable.escapedEntry operator)) =
      List.map (Variable.escapedEntry operator) ∘ List.filterMap id := by
    funext results
    simp only [Function.comp_apply, List.filterMap_map, List.map_filterMap]
    rfl
  have made : formatItems operator ⟨.mapping entries, .mapping⟩ =
      (entries.mapM (useEntry fun key item => (item.format operator none).map fun text =>
        (Percent.escape operator.mask key, text))).map (List.filterMap id) := rfl
  rw [made, each, Datum.presentEntries, funext (useEntry_map _ _), mapM_map, exceptMap_map,
    exceptMap_map, behind]

/-- A mapping is written by the texts of its entries. Without entries it is undefined, and nothing
is written. -/
theorem writeTo_entries (entries : List (Datum × Datum)) (writer : ItemWriter) :
    writeTo operator var writer
        ⟨.mapping entries, if entries.isEmpty then .undefined else .mapping⟩ =
      (Datum.presentEntries entries).map fun entries =>
        .writeItems operator (var.items operator (.mapping entries)) writer := by
  cases entries with
  | nil => rfl
  | cons entry rest =>
      rw [List.isEmpty_cons, if_neg Bool.false_ne_true]
      simp only [writeTo, formatItems_mapping]
      cases Datum.presentEntries (entry :: rest) with
      | error error => rfl
      | ok entries => exact congrArg Except.ok (Variable.writeMapping_eq entries writer)

/-- A list of genuine members is written by their texts. -/
theorem writeTo_list {raw : Datum} {members : List Datum} (listed : raw.members = .ok members)
    (contained : raw.content = (Datum.texts members).map .list)
    (genuine : ∀ member ∈ members, member.Genuine) (writer : ItemWriter) :
    writeTo operator var writer ⟨raw, if members.isEmpty then .undefined else .list⟩ =
      raw.content.map fun content =>
        .writeItems operator (var.items operator content) writer := by
  rw [contained, writeTo_members listed, Datum.texts_eq genuine, exceptMap_map]
  rfl

/-- A mapping of genuine values is written by their texts. -/
theorem writeTo_mapping {entries : List (Datum × Datum)}
    (genuine : ∀ entry ∈ entries, entry.2.Genuine) (writer : ItemWriter) :
    writeTo operator var writer
        ⟨.mapping entries, if entries.isEmpty then .undefined else .mapping⟩ =
      (Datum.mapping entries).content.map fun content =>
        .writeItems operator (var.items operator content) writer := by
  rw [Datum.content, writeTo_entries, Datum.entryTexts_eq genuine, exceptMap_map]
  rfl

/-- A genuine value is written as the items that a variable has for its content. -/
theorem Genuine.writeTo_eq (genuine : value.Genuine) (operator : Operator) (var : Variable)
    (writer : ItemWriter) :
    value.writeTo operator var writer =
      value.raw.content.map fun content =>
        .writeItems operator (var.items operator content) writer := by
  rcases value with ⟨raw, kind⟩
  have classified : raw.classify = .ok kind := genuine.kind
  have parts : raw.Genuine := genuine.raw
  cases parts with
  | null =>
      cases classified
      rfl
  | collection parts =>
      cases classified
      exact writeTo_list rfl rfl parts writer
  | range start stop step =>
      have members : ∀ member ∈ Datum.rangeMembers start stop step, member.Genuine := by
        intro member inside
        rcases List.mem_map.mp inside with ⟨index, _, rfl⟩
        exact .int _
      rw [Datum.classify_range] at classified
      split at classified
      · cases classified
      · cases classified
        exact writeTo_list rfl rfl members writer
  | mapping keys values =>
      cases classified
      exact writeTo_mapping values writer
  | @namedTuple name fields parts =>
      have members : ∀ member ∈ fields.map (·.2), member.Genuine := by
        intro member inside
        rcases List.mem_map.mp inside with ⟨field, there, rfl⟩
        exact parts field there
      have noFields : (fields.map (·.2)).isEmpty = fields.isEmpty := List.isEmpty_map
      cases classified
      rw [← noFields]
      exact writeTo_list rfl rfl members writer
  | _ =>
      cases classified
      exact writeTo_scalar _ writer

end Value

/-! ## Expressions -/

theorem Variable.write_eq {data : Value} (genuine : data.Genuine) (operator : Operator)
    (var : Variable) (writer : ItemWriter) :
    var.write operator data writer = (var.itemsIn operator data).map fun items =>
      .writeItems operator items writer := by
  have split : var.write operator data writer =
      (data.resolve var.path).bind (Value.writeTo operator var writer) := rfl
  have found : var.itemsIn operator data = (data.resolve var.path).bind fun value =>
      value.raw.content.map (var.items operator) := by
    rw [itemsIn]
    cases data.resolve var.path with
    | error error => rfl
    | ok value => cases value.raw.content <;> rfl
  rw [split, found]
  cases resolved : data.resolve var.path with
  | error error => rfl
  | ok value =>
      have written := (genuine.resolve resolved).writeTo_eq operator var writer
      have mapped := exceptMap_map value.raw.content (var.items operator) fun items =>
        ItemWriter.writeItems operator items writer
      exact written.trans mapped.symm

namespace Expression

/-- Writing the variables one after the other is writing all their items. -/
theorem foldlM_write {data : Value} (genuine : data.Genuine) (operator : Operator)
    (vars : List Variable) (writer : ItemWriter) :
    vars.foldlM (Variable.write operator data) writer =
      (vars.mapM (Variable.itemsIn operator data)).map fun items =>
        .writeItems operator items.flatten writer := by
  induction vars generalizing writer with
  | nil => rfl
  | cons var rest ih =>
      rw [List.foldlM_cons, Variable.write_eq genuine, List.mapM_cons]
      cases var.itemsIn operator data with
      | error error => rfl
      | ok items =>
          have tail := ih (.writeItems operator items writer)
          have step : ((Except.ok items : Except ShapeError (List Item)).map fun items =>
              ItemWriter.writeItems operator items writer) >>=
                (fun writer => rest.foldlM (Variable.write operator data) writer) =
              rest.foldlM (Variable.write operator data) (.writeItems operator items writer) := rfl
          rw [step, tail]
          cases rest.mapM (Variable.itemsIn operator data) with
          | error error => rfl
          | ok more => exact congrArg Except.ok (ItemWriter.writeItems_append _ _ _ _).symm

/-- For genuine data an expression expands to the layout of its items. -/
theorem expand_of_genuine {data : Value} (genuine : data.Genuine) (expression : Expression) :
    expression.expand data = (expression.items data).map expression.operator.layout := by
  rw [expand, items, foldlM_write genuine, exceptMap_map, exceptMap_map]
  congr 1
  funext items
  exact ItemWriter.finish_writeItems _ _

/-- Whatever the context, an expression expands to the layout of the items that its variables
have in it. Where a range in the context is overlong, or a number has too many digits, both give the
same error. -/
theorem expand_eq_layout {context : Datum} {data : Value} (genuine : context.Genuine)
    (made : Value.of context = .ok data) (expression : Expression) :
    expression.expand data = (expression.items data).map expression.operator.layout :=
  expand_of_genuine (Value.genuine_of genuine made) expression

/-- A list that was wrapped before, of which nothing but one member is left, and a text of which two
characters are used. -/
theorem expand_eq_layout_wrapped :
    let context : Datum := .mapping
      [(.text "x", .wrapped (.collection .list [.null, .text "a"]) .list), (.text "y", .text "é/d")]
    context.Genuine ∧
      Expression.expand ⟨.query, [⟨["x"], some .explode, by simp⟩,
        ⟨["y"], some (.maxLength ⟨2, by decide⟩), by simp⟩], by simp⟩ ⟨context, .mapping⟩ =
        .ok "?x=a&y=%C3%A9%2F" := by
  intro context
  have members : (Datum.collection .list [.null, .text "a"]).Genuine := by
    apply Datum.Genuine.collection
    simp only [List.forall_mem_cons, List.not_mem_nil, false_imp_iff, implies_true, and_true]
    exact ⟨.null, .text _⟩
  have genuine : context.Genuine := by
    apply Datum.Genuine.mapping
    · simp only [List.forall_mem_cons, List.not_mem_nil, false_imp_iff, implies_true, and_true]
      exact ⟨.text _, .text _⟩
    · simp only [List.forall_mem_cons, List.not_mem_nil, false_imp_iff, implies_true, and_true]
      exact ⟨.wrapped members rfl, .text _⟩
  have layout : Operator.query.layout
      [⟨some (.name "x"), .single "a"⟩, ⟨some (.name "y"), .single "é/"⟩] =
        "?x=a&y=%C3%A9%2F" := by
    decide +kernel
  exact ⟨genuine, (expand_eq_layout genuine rfl _).trans (congrArg Except.ok layout)⟩

end Expression

end UriTemplate
