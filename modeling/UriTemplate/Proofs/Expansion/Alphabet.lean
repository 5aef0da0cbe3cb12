import UriTemplate.Proofs.Expansion.Decoding
import UriTemplate.Proofs.Percent.Escaping

/-!
# The characters of an expansion

An expansion is made of unreserved and reserved characters and of percent triplets. It is laid out
in spans: the prefix and the separators of the operator, commas, equals signs, names, and
percent-encoded data. Under most operators the data have no reserved characters left; under the
two that let them pass, they have those of the text that is encoded.
-/

set_option autoImplicit false

namespace UriTemplate

open Grammar

/-! ## Characters of URIs -/

namespace CodePoint

/-- The marks among the unreserved characters. -/
def unreservedMarks : List Char :=
  ['-', '.', '_', '~']

/-- Letters, digits and some marks. -/
def isUnreserved (point : CodePoint) : Bool :=
  point.isLetter || point.isDigit || unreservedMarks.any fun char => point == ofChar char

/-- The delimiters of URIs. -/
def delimiters : List Char :=
  [':', '/', '?', '#', '[', ']', '@', '!', '$', '&', '\'', '(', ')', '*', '+', ',', ';', '=']

/-- The characters that may delimit the parts of a URI. -/
def isReserved (point : CodePoint) : Bool :=
  delimiters.any fun char => point == ofChar char

/-- Hexadecimal digits without the lowercase letters. -/
def isUpperHexDigit (point : CodePoint) : Bool :=
  point.isDigit || (0x41 ≤ point.toNat && point.toNat ≤ 0x46)

theorem isUnreserved_ofLatin (byte : UInt8) :
    (ofLatin byte).isUnreserved = decide (ByteClass.ofByte byte = .unreserved) := by
  revert byte
  apply forall_byte
  decide +kernel

theorem isReserved_ofLatin (byte : UInt8) :
    (ofLatin byte).isReserved = decide (ByteClass.ofByte byte = .reserved) := by
  revert byte
  apply forall_byte
  decide +kernel

/-- A kind of characters without a delimiter has no reserved character. -/
theorem isReserved_eq_false {kind : CodePoint → Bool}
    (none : (delimiters.any fun char => kind (ofChar char)) = false) {point : CodePoint}
    (member : kind point = true) : point.isReserved = false := by
  cases reserved : point.isReserved with
  | false => rfl
  | true =>
      rcases List.any_eq_true.mp reserved with ⟨char, listed, equal⟩
      rw [beq_iff_eq.mp equal] at member
      exact absurd member (List.any_eq_false.mp none char listed)

theorem isReserved_of_isUpperHexDigit {point : CodePoint} (digit : point.isUpperHexDigit = true) :
    point.isReserved = false :=
  isReserved_eq_false (by decide) digit

theorem isReserved_of_isNameChar {point : CodePoint} (names : point.isNameChar = true) :
    point.isReserved = false :=
  isReserved_eq_false (by decide) names

theorem isUnreserved_of_isNameChar {point : CodePoint} (names : point.isNameChar = true) :
    point.isUnreserved = true := by
  simp only [isNameChar, Bool.or_eq_true, beq_iff_eq] at names
  rcases names with alphanumeric | rfl
  · rw [isUnreserved, Bool.or_eq_true, Bool.or_eq_true]
    exact .inl alphanumeric
  · decide

/-- Reserved and unreserved characters are ASCII characters, and so is every other character of a
URI. -/
theorem ascii_of_isUnreserved {point : CodePoint} (unreserved : point.isUnreserved = true) :
    point.toNat < 0x80 := by
  simp only [isUnreserved, isLetter, isDigit, unreservedMarks, Bool.or_eq_true, Bool.and_eq_true,
    decide_eq_true_eq, List.any_cons, List.any_nil, Bool.or_false, beq_iff_eq] at unreserved
  rcases unreserved with (letter | digit) | rfl | rfl | rfl | rfl
  · omega
  · omega
  all_goals decide

theorem ascii_of_isReserved {point : CodePoint} (reserved : point.isReserved = true) :
    point.toNat < 0x80 := by
  rcases List.any_eq_true.mp reserved with ⟨char, member, equal⟩
  have every : (delimiters.all fun char => (ofChar char).toNat < 0x80) = true := by decide
  rw [beq_iff_eq.mp equal]
  exact of_decide_eq_true (List.all_eq_true.mp every char member)

theorem ascii_of_isUpperHexDigit {point : CodePoint} (digit : point.isUpperHexDigit = true) :
    point.toNat < 0x80 := by
  simp only [isUpperHexDigit, isDigit, Bool.or_eq_true, Bool.and_eq_true,
    decide_eq_true_eq] at digit
  omega

end CodePoint

/-- Texts of unreserved characters, reserved characters and percent triplets with uppercase
digits. -/
inductive UriText : Text → Prop where
  | nil : UriText []
  | unreserved {point : CodePoint} {rest : Text} : point.isUnreserved = true → UriText rest →
      UriText (point :: rest)
  | reserved {point : CodePoint} {rest : Text} : point.isReserved = true → UriText rest →
      UriText (point :: rest)
  | triplet {high low : CodePoint} {rest : Text} : high.isUpperHexDigit = true →
      low.isUpperHexDigit = true → UriText rest → UriText ('%' :: high :: low :: rest)

namespace UriText

variable {text left right : Text}

theorem append (first : UriText left) (second : UriText right) : UriText (left ++ right) := by
  induction first with
  | nil => exact second
  | unreserved point _ ih => exact .unreserved point ih
  | reserved point _ ih => exact .reserved point ih
  | triplet high low _ ih => exact .triplet high low ih

theorem flatMap {α : Type} {list : List α} {write : α → Text}
    (each : ∀ element ∈ list, UriText (write element)) : UriText (list.flatMap write) := by
  induction list with
  | nil => exact .nil
  | cons element rest ih =>
      rw [List.flatMap_cons]
      exact (each element (by simp)).append (ih fun other member => each other (by simp [member]))

theorem of_forall (characters : ∀ point ∈ text, (point.isUnreserved || point.isReserved) = true) :
    UriText text := by
  induction text with
  | nil => exact .nil
  | cons point rest ih =>
      have tail := ih fun other member => characters other (by simp [member])
      rcases (Bool.or_eq_true _ _).mp (characters point (by simp)) with unreserved | reserved
      · exact .unreserved unreserved tail
      · exact .reserved reserved tail

theorem ascii (uri : UriText text) : ∀ point ∈ text, point.toNat < 0x80 := by
  induction uri with
  | nil => simp
  | unreserved point _ ih =>
      exact List.forall_mem_cons.mpr ⟨CodePoint.ascii_of_isUnreserved point, ih⟩
  | reserved point _ ih =>
      exact List.forall_mem_cons.mpr ⟨CodePoint.ascii_of_isReserved point, ih⟩
  | triplet high low _ ih =>
      have percent : (CodePoint.ofChar '%').toNat < 0x80 := by decide
      simp only [List.forall_mem_cons]
      exact ⟨percent, CodePoint.ascii_of_isUpperHexDigit high,
        CodePoint.ascii_of_isUpperHexDigit low, ih⟩

/-- Every percent sign begins a triplet. -/
theorem triplet_of_percent (uri : UriText text) {before after : Text}
    (split : text = before ++ ('%' : CodePoint) :: after) :
    ∃ high low rest, after = high :: low :: rest ∧ high.isUpperHexDigit = true ∧
      low.isUpperHexDigit = true := by
  induction uri generalizing before with
  | nil => exact absurd split.symm (List.append_ne_nil_of_right_ne_nil _ (List.cons_ne_nil _ _))
  | unreserved point _ ih =>
      cases before with
      | nil =>
          cases split
          cases point
      | cons first before =>
          cases split
          exact ih rfl
  | reserved point _ ih =>
      cases before with
      | nil =>
          cases split
          cases point
      | cons first before =>
          cases split
          exact ih rfl
  | triplet high low _ ih =>
      match before with
      | [] =>
          cases split
          exact ⟨_, _, _, rfl, high, low⟩
      | [_] =>
          cases split
          cases high
      | [_, _] =>
          cases split
          cases low
      | _ :: _ :: _ :: before =>
          cases split
          exact ih rfl

end UriText

/-! ## Escaped texts -/

theorem isUpperHexDigit_hexDigit (number : Nat) :
    (hexDigit .upper number).isUpperHexDigit = true := by
  have every : ∀ digit < 16, (hexDigit .upper digit).isUpperHexDigit = true := by decide
  have reduced : hexDigit .upper number = hexDigit .upper (number % 16) := by
    simp only [hexDigit, Nat.mod_mod]
  rw [reduced]
  exact every (number % 16) (Nat.mod_lt _ (by decide))

namespace Percent

variable {mask : Mask}

/-- What is left of a byte is a triplet, or a character that may stand in a URI. -/
theorem uriText_encodeBytes (disallowed : mask.disallowed = true) (bytes : List UInt8) :
    UriText ((encodeBytes mask bytes).map CodePoint.ofLatin) := by
  induction bytes with
  | nil => exact .nil
  | cons byte rest ih =>
      rw [encodeBytes_cons, List.map_append]
      apply UriText.append _ ih
      cases selected : mask.selects byte with
      | true =>
          rw [if_pos rfl, map_triplet]
          exact .triplet (isUpperHexDigit_hexDigit _) (isUpperHexDigit_hexDigit _) .nil
      | false =>
          rw [if_neg Bool.false_ne_true, List.map_singleton]
          rw [Mask.selects] at selected
          cases byteClass : ByteClass.ofByte byte with
          | disallowed =>
              rw [byteClass, Mask.has, disallowed] at selected
              cases selected
          | unreserved =>
              apply UriText.unreserved _ .nil
              rw [CodePoint.isUnreserved_ofLatin, byteClass]
              rfl
          | reserved =>
              apply UriText.reserved _ .nil
              rw [CodePoint.isReserved_ofLatin, byteClass]
              rfl

theorem uriText_escape (disallowed : mask.disallowed = true) (text : Text) :
    UriText (escape mask text) := by
  rw [escape_eq_map disallowed]
  exact uriText_encodeBytes disallowed _

theorem filter_triplet (byte : UInt8) :
    ((triplet byte).map CodePoint.ofLatin).filter CodePoint.isReserved = [] := by
  have percent : (CodePoint.ofChar '%').isReserved = false := by decide
  have high := CodePoint.isReserved_of_isUpperHexDigit (isUpperHexDigit_hexDigit (byte.toNat / 16))
  have low := CodePoint.isReserved_of_isUpperHexDigit (isUpperHexDigit_hexDigit byte.toNat)
  rw [map_triplet]
  simp [highDigit, lowDigit, percent, high, low]

/-- Replacing bytes leaves the reserved ones, unless the mask chooses them. -/
theorem filter_encodeBytes (mask : Mask) (bytes : List UInt8) :
    ((encodeBytes mask bytes).map CodePoint.ofLatin).filter CodePoint.isReserved =
      if mask.reserved then [] else (bytes.map CodePoint.ofLatin).filter CodePoint.isReserved := by
  induction bytes with
  | nil => simp
  | cons byte rest ih =>
      rw [encodeBytes_cons, List.map_append, List.filter_append, ih]
      cases reserved : (CodePoint.ofLatin byte).isReserved with
      | false =>
          have nothing : ((if mask.selects byte then triplet byte else [byte]).map
              CodePoint.ofLatin).filter CodePoint.isReserved = [] := by
            split
            · exact filter_triplet byte
            · simp [reserved]
          rw [nothing, List.map_cons, List.filter_cons_of_neg (by simp [reserved])]
          rfl
      | true =>
          -- What the mask says of this byte is what it says of all reserved ones.
          have selected : mask.selects byte = mask.reserved := by
            rw [CodePoint.isReserved_ofLatin, decide_eq_true_iff] at reserved
            rw [Mask.selects, reserved]
            rfl
          rw [selected, List.map_cons, List.filter_cons_of_pos reserved]
          cases mask.reserved with
          | true => simp [filter_triplet]
          | false => simp [reserved]

/-- Bytes outside ASCII are no reserved characters. -/
theorem filter_of_high {bytes : List UInt8} (high : ∀ byte ∈ bytes, 0x80 ≤ byte.toNat) :
    (bytes.map CodePoint.ofLatin).filter CodePoint.isReserved = [] := by
  rw [List.filter_eq_nil_iff]
  intro point member reserved
  rcases List.mem_map.mp member with ⟨byte, inside, rfl⟩
  rw [CodePoint.isReserved_ofLatin, ByteClass.ofByte_of_high (high byte inside)] at reserved
  cases reserved

/-- The bytes of a text have its reserved characters. -/
theorem filter_encode (coding : Utf8.Coding) (text : Text) :
    ((Utf8.encode coding text).map CodePoint.ofLatin).filter CodePoint.isReserved =
      text.filter CodePoint.isReserved := by
  induction text with
  | nil => rfl
  | cons point rest ih =>
      rw [Utf8.encode_cons, List.map_append, List.filter_append, ih]
      by_cases ascii : point.toNat < 0x80
      · rw [Utf8.encodePoint_of_ascii coding ascii, List.map_singleton,
          CodePoint.ofLatin_ofNat (Nat.lt_trans ascii (by decide)), ← List.filter_append]
        rfl
      · have other : ¬point.isReserved = true := fun reserved =>
          ascii (CodePoint.ascii_of_isReserved reserved)
        rw [filter_of_high (high_of_mem_encodePoint coding (Nat.not_lt.mp ascii)),
          List.filter_cons_of_neg other]
        rfl

/-- An escaped text has the reserved characters of the text, unless the mask chooses them. -/
theorem filter_escape (disallowed : mask.disallowed = true) (text : Text) :
    (escape mask text).filter CodePoint.isReserved =
      if mask.reserved then [] else text.filter CodePoint.isReserved := by
  rw [escape_eq_map disallowed, filter_encodeBytes, filter_encode]

end Percent

/-! ## Spans -/

/-- A span of an expansion: the prefix or a separator of the operator, a comma between texts, an
equals sign behind a key, the name of a variable, or a text of the data. -/
inductive Span where
  | first
  | separator
  | comma
  | equalsSign
  | name (text : Text)
  | data (text : Text)
  deriving DecidableEq, Repr

namespace Span

/-- A span as it is written. Only the data are percent-encoded. -/
def written (operator : Operator) : Span → Text
  | first => operator.first
  | separator => operator.separator
  | comma => [',']
  | equalsSign => ['=']
  | name text => text
  | data text => Percent.escape operator.mask text

/-- The reserved characters of a span that is no delimiter. Names have none. Data have those of
their text under the operators that let them pass, and none under the others. -/
def KeepsReserved (operator : Operator) : Span → Prop
  | name text => text.filter CodePoint.isReserved = []
  | data text => (Percent.escape operator.mask text).filter CodePoint.isReserved =
      if operator = .reserved ∨ operator = .fragment then text.filter CodePoint.isReserved else []
  | _ => True

end Span

namespace Item

/-- The key of an item is a name, or it is data. -/
def Key.span : Key → Span
  | name text => .name text
  | entry text => .data text

/-- Several texts in one value have commas between them. -/
def Payload.spans : Payload → List Span
  | single text => [.data text]
  | joined texts => [Span.comma].intercalate (texts.map fun text => [.data text])

/-- Behind a key stands an equals sign, but for a path parameter with an empty value. -/
def spans (operator : Operator) (item : Item) : List Span :=
  match item.key with
  | none => item.payload.spans
  | some key => key.span ::
      (if operator = .pathParam ∧ item.payload.written operator = [] then [] else [.equalsSign]) ++
        item.payload.spans

end Item

/-- The spans of an expansion with given items. -/
def Operator.spans (operator : Operator) (items : List Item) : List Span :=
  if items = [] then []
  else .first :: [Span.separator].intercalate (items.map (Item.spans operator))

/-- What is written between rows stands between what is written for them. -/
theorem flatMap_intercalate {α : Type} (write : α → Text) (separator : α) (rows : List (List α)) :
    ([separator].intercalate rows).flatMap write =
      (write separator).intercalate (rows.map (List.flatMap write)) := by
  cases rows with
  | nil => rfl
  | cons row rest =>
      rw [List.map_cons, ItemWriter.intercalate_eq_append, ItemWriter.intercalate_eq_append,
        List.flatMap_append, List.flatMap_map, List.flatMap_assoc]
      congr 2

namespace Item

variable (operator : Operator)

theorem Key.flatMap_span (key : Key) : key.span.written operator = key.written operator := by
  cases key <;> rfl

theorem Payload.flatMap_spans (payload : Payload) :
    payload.spans.flatMap (Span.written operator) = payload.written operator := by
  cases payload with
  | single text => exact List.flatMap_singleton _ _
  | joined texts =>
      have each : (List.flatMap (Span.written operator) ∘ fun text => [Span.data text]) =
          Percent.escape operator.mask := by
        funext text
        exact List.flatMap_singleton _ _
      rw [spans, flatMap_intercalate, List.map_map, each]
      rfl

theorem flatMap_spans (item : Item) :
    (item.spans operator).flatMap (Span.written operator) = item.written operator := by
  rw [spans, written]
  cases item.key with
  | none => exact Payload.flatMap_spans operator item.payload
  | some key =>
      have sign : (if operator = .pathParam ∧ item.payload.written operator = [] then []
            else [Span.equalsSign]).flatMap (Span.written operator) =
          if operator.named ∧ item.payload.written operator = [] then operator.ifEmpty
            else ['='] := by
        cases operator with
        | pathParam =>
            simp only [true_and, Operator.named, Operator.ifEmpty]
            split
            · rfl
            · rfl
        | _ => simp [Operator.ifEmpty, Span.written]
      simp only [List.cons_append, List.flatMap_cons, List.flatMap_append,
        Key.flatMap_span, Payload.flatMap_spans, sign, List.append_assoc]

end Item

/-- An expansion is its spans one behind the other. -/
theorem Operator.layout_eq_flatMap (operator : Operator) (items : List Item) :
    operator.layout items = (operator.spans items).flatMap (Span.written operator) := by
  rw [layout, spans]
  split
  · rfl
  · have each : (List.flatMap (Span.written operator) ∘ Item.spans operator) =
        Item.written operator := by
      funext item
      exact Item.flatMap_spans operator item
    rw [List.flatMap_cons, flatMap_intercalate, List.map_map, each]
    rfl

/-! ## Expressions -/

theorem Operator.disallowed_mask (operator : Operator) : operator.mask.disallowed = true := by
  cases operator <;> rfl

/-- Reserved characters pass under two operators. -/
theorem Operator.reserved_mask (operator : Operator) :
    operator.mask.reserved = !decide (operator = .reserved ∨ operator = .fragment) := by
  cases operator <;> rfl

/-- The prefix and the separator of an operator may stand in a URI. -/
theorem Operator.uriText_marks (operator : Operator) :
    UriText operator.first ∧ UriText operator.separator := by
  have first : ∀ point ∈ operator.first, (point.isUnreserved || point.isReserved) = true := by
    cases operator <;> decide
  have separator : ∀ point ∈ operator.separator,
      (point.isUnreserved || point.isReserved) = true := by
    cases operator <;> decide
  exact ⟨.of_forall first, .of_forall separator⟩

namespace Span

variable {operator : Operator} {items : List Item} {span : Span}

theorem keepsReserved_data (operator : Operator) (text : Text) :
    (data text).KeepsReserved operator := by
  rw [KeepsReserved, Percent.filter_escape operator.disallowed_mask, operator.reserved_mask]
  by_cases passes : operator = .reserved ∨ operator = .fragment <;> simp [passes]

/-- Whatever is known of names, of data and of the other spans, is known of the spans of items. -/
theorem forall_spans (holds : Span → Prop) (proper : ∀ item ∈ items, item.Proper)
    (marks : holds first ∧ holds separator ∧ holds comma ∧ holds equalsSign)
    (names : ∀ text, IsName text → holds (name text)) (texts : ∀ text, holds (data text)) :
    ∀ span ∈ operator.spans items, holds span := by
  rcases marks with ⟨first, separator, comma, equalsSign⟩
  have values : ∀ payload : Item.Payload, ∀ span ∈ payload.spans, holds span := by
    intro payload span member
    cases payload with
    | single text =>
        rw [List.mem_singleton.mp member]
        exact texts text
    | joined many =>
        rcases mem_of_mem_intercalate member with rfl | ⟨row, there, inside⟩
        · exact comma
        · rcases List.mem_map.mp there with ⟨text, _, rfl⟩
          rw [List.mem_singleton.mp inside]
          exact texts text
  intro span member
  rw [Operator.spans] at member
  split at member
  · cases member
  rcases List.mem_cons.mp member with rfl | member
  · exact first
  rcases mem_of_mem_intercalate member with rfl | ⟨row, there, inside⟩
  · exact separator
  rcases List.mem_map.mp there with ⟨item, itemMember, rfl⟩
  rw [Item.spans] at inside
  cases known : item.key with
  | none =>
      rw [known] at inside
      exact values _ span inside
  | some key =>
      rw [known] at inside
      rcases List.mem_append.mp inside with before | inside
      · rcases List.mem_cons.mp before with rfl | sign
        · cases key with
          | name text => exact names text ((proper item itemMember).name text known)
          | entry text => exact texts text
        · split at sign
          · cases sign
          · rw [List.mem_singleton.mp sign]
            exact equalsSign
      · exact values _ span inside

end Span

/-- What an expansion is made of: it is the spans of its items, it has no other characters than
those of URIs, and what its names and its data have of the reserved ones is what they should. -/
structure Spelled (operator : Operator) (items : List Item) (expanded : Text) : Prop where
  spans : expanded = (operator.spans items).flatMap (Span.written operator)
  uri : UriText expanded
  ascii : ∀ point ∈ expanded, point.toNat < 0x80
  percent : ∀ before after, expanded = before ++ ('%' : CodePoint) :: after →
    ∃ high low rest, after = high :: low :: rest ∧ high.isUpperHexDigit = true ∧
      low.isUpperHexDigit = true
  reserved : ∀ span ∈ operator.spans items, span.KeepsReserved operator

/-- The layout of proper items is spelled as it should. -/
theorem Operator.spelled_layout (operator : Operator) {items : List Item}
    (proper : ∀ item ∈ items, item.Proper) : Spelled operator items (operator.layout items) := by
  have layout := operator.layout_eq_flatMap items
  have sign : UriText ['='] := .reserved (by decide) .nil
  have comma : UriText [','] := .reserved (by decide) .nil
  have uri : UriText (operator.layout items) := by
    rw [layout]
    apply UriText.flatMap
    apply Span.forall_spans (fun span => UriText (span.written operator)) proper
    · exact ⟨operator.uriText_marks.1, operator.uriText_marks.2, comma, sign⟩
    · intro text isName
      apply UriText.of_forall
      intro point member
      rw [CodePoint.isUnreserved_of_isNameChar (isName.2 point member), Bool.true_or]
    · exact Percent.uriText_escape operator.disallowed_mask
  refine ⟨layout, uri, uri.ascii, fun before after => uri.triplet_of_percent, ?_⟩
  apply Span.forall_spans (fun span => span.KeepsReserved operator) proper
  · exact ⟨trivial, trivial, trivial, trivial⟩
  · intro text isName
    rw [Span.KeepsReserved, List.filter_eq_nil_iff]
    intro point member
    rw [CodePoint.isReserved_of_isNameChar (isName.2 point member)]
    exact Bool.false_ne_true
  · exact Span.keepsReserved_data operator

namespace Expression

/-- The expansion of a parsed expression fails with the first fault that one of its variables comes
upon, which is a range that is overlong or a number that has too many digits. Without a fault there
is an expansion, and it is spelled as it should from the items that the variables have. -/
theorem expand_spelled {text : Text} {template : Template}
    (parsed : Template.parse text = .ok template) {expression : Expression}
    (member : expression ∈ template.expressions) {context : Datum} {data : Value}
    (genuine : context.Genuine) (made : Value.of context = .ok data) :
    (∀ error, expression.expand data = .error error ↔ expression.fault? context = some error) ∧
      (∀ error, expression.fault? context = some error →
        error = .tooLong ∨ error = .tooManyDigits) ∧
      (expression.fault? context = none →
        ∃ expanded items, expression.expand data = .ok expanded ∧
          expression.items data = .ok items ∧ Spelled expression.operator items expanded) := by
  refine ⟨expression.failsWith_expand genuine made, fun error => cases_of_fault?, ?_⟩
  intro faultless
  obtain ⟨items, found, expands⟩ := exists_items genuine made faultless
  have names := (Template.canonical_of_parse parsed).names expression member
  exact ⟨_, items, expands, found, expression.operator.spelled_layout (proper_items names found)⟩

/-- Delimiters in a value are percent-encoded. -/
theorem expand_spelled_delimiters :
    ∃ expanded items, Expression.expand ⟨.query, [⟨["x"], none, by simp⟩], by simp⟩
        ⟨.mapping [(.text "x", .text "a&b=c")], .mapping⟩ = .ok expanded ∧
      Spelled .query items expanded := by
  have parsed : Template.parse "\x7b?x\x7d" =
      .ok ⟨[.expression ⟨.query, [⟨["x"], none, by simp⟩], by simp⟩]⟩ := by
    rw [Template.parse_eq_read]
    rfl
  have genuine : (Datum.mapping [(.text "x", .text "a&b=c")]).Genuine := by
    apply Datum.Genuine.mapping
    · intro entry inside
      rw [List.mem_singleton.mp inside]
      exact .text _
    · intro entry inside
      rw [List.mem_singleton.mp inside]
      exact .text _
  have spelled := (expand_spelled parsed (List.mem_singleton.mpr rfl) genuine rfl).2.2 rfl
  rcases spelled with ⟨expanded, items, expands, _, whole⟩
  exact ⟨expanded, items, expands, whole⟩

/-- Under a name that leads nowhere from a range there is nothing to write, but where the range is
overlong the expansion fails on the way there. -/
theorem expand_overlong :
    ∃ template expression data, Template.parse "\x7bx.y\x7d" = .ok template ∧
      expression ∈ template.expressions ∧
      (Datum.mapping [(.text "x", .range 0 9223372036854775808 1)]).Genuine ∧
      Value.of (.mapping [(.text "x", .range 0 9223372036854775808 1)]) = .ok data ∧
      Expression.expand expression data = .error .tooLong := by
  have parsed : Template.parse "\x7bx.y\x7d" =
      .ok ⟨[.expression ⟨.simple, [⟨["x", "y"], none, by simp⟩], by simp⟩]⟩ := by
    rw [Template.parse_eq_read]
    rfl
  have genuine : (Datum.mapping [(.text "x", .range 0 9223372036854775808 1)]).Genuine := by
    apply Datum.Genuine.mapping
    · intro entry inside
      rw [List.mem_singleton.mp inside]
      exact .text _
    · intro entry inside
      rw [List.mem_singleton.mp inside]
      exact .range _ _ _
  have made : Value.of (.mapping [(.text "x", .range 0 9223372036854775808 1)]) =
      .ok ⟨.mapping [(.text "x", .range 0 9223372036854775808 1)], .mapping⟩ := rfl
  refine ⟨_, _, _, parsed, List.mem_singleton.mpr rfl, genuine, made, ?_⟩
  rw [failsWith_expand genuine made]
  rfl

end Expression

end UriTemplate
