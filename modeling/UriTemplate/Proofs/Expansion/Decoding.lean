import UriTemplate.Proofs.Expansion.Failure
import UriTemplate.Proofs.Template.Canonical

/-!
# Decoding an expansion

Under the operators for paths, parameters and queries an expansion can be read back: it is split
at the separators into items, an item at its first equals sign into key and value, and the value
of several texts at its commas. Nothing in the data can get in the way, since the delimiters are
percent-encoded wherever they stand in a text, and the names of variables have none.
-/

set_option autoImplicit false

namespace UriTemplate

open Grammar

/-- The bytes of a text. -/
def Text.bytes (text : Text) : List UInt8 :=
  Utf8.encode (Utf8.codingOf text) text

/-! ## Reading items back -/

namespace Item

/-- The text that a key stands for. -/
def Key.text : Key → Text
  | name text => text
  | entry text => text

/-- An item of a parsed expression: the name of a variable is a name, and a value of several
texts has some. -/
structure Proper (item : Item) : Prop where
  name : ∀ text, item.key = some (.name text) → IsName text
  joined : ∀ texts, item.payload = .joined texts → texts ≠ []

end Item

/-! ## Delimiters -/

/-- A byte that is replaced in values, and occurs neither in triplets nor in names. -/
structure Delimiter (byte : UInt8) : Prop where
  selected : Mask.allButUnreserved.selects byte = true
  mark : byte ≠ 0x25
  noDigit : (CodePoint.ofLatin byte).hexValue? = none
  noName : (CodePoint.ofLatin byte).isNameChar = false

namespace Delimiter

theorem slash : Delimiter 0x2F := ⟨by decide, by decide, by decide, by decide⟩
theorem comma : Delimiter 0x2C := ⟨by decide, by decide, by decide, by decide⟩
theorem equalsSign : Delimiter 0x3D := ⟨by decide, by decide, by decide, by decide⟩

variable {byte : UInt8}

theorem not_mem_escape (delimiter : Delimiter byte) (text : Text) :
    CodePoint.ofLatin byte ∉ Percent.escape .allButUnreserved text :=
  Percent.not_mem_escape rfl delimiter.selected delimiter.mark delimiter.noDigit text

end Delimiter

theorem mem_of_mem_intercalate {α : Type} {separator element : α} {lists : List (List α)}
    (member : element ∈ [separator].intercalate lists) :
    element = separator ∨ ∃ list ∈ lists, element ∈ list := by
  cases lists with
  | nil => cases member
  | cons list rest =>
      rw [ItemWriter.intercalate_eq_append, List.mem_append, List.mem_flatMap] at member
      rcases member with inside | ⟨other, there, inside⟩
      · exact .inr ⟨list, by simp, inside⟩
      · rcases List.mem_cons.mp inside with first | inside
        · exact .inl first
        · exact .inr ⟨other, by simp [there], inside⟩

/-! ## Names -/

theorem CodePoint.ascii_of_isNameChar {point : CodePoint} (names : point.isNameChar = true) :
    point.toNat < 0x80 := by
  simp only [isNameChar, isLetter, isDigit, Bool.or_eq_true, Bool.and_eq_true, decide_eq_true_eq,
    beq_iff_eq] at names
  rcases names with (letter | digit) | rfl
  · omega
  · omega
  · decide

theorem Grammar.IsName.unescape {name : Text} (isName : IsName name) :
    Percent.unescape name = name.bytes := by
  have noPercent : CodePoint.ofChar '%' ∉ name := by
    intro member
    have names := isName.2 _ member
    cases names
  have encodable : Utf8.encodable name = true := by
    rw [Utf8.encodable, List.all_eq_true]
    intro point member
    have ascii := CodePoint.ascii_of_isNameChar (isName.2 point member)
    have character : point.isSurrogate = false := by
      rw [Utf8.isSurrogate_eq_false_iff]
      omega
    rw [CodePoint.isLoneSurrogate, character]
    rfl
  rw [Percent.unescape_of_not_mem noPercent, Text.bytes, Utf8.codingOf, if_pos encodable]

namespace Item

variable {operator : Operator} {item : Item} {byte : UInt8}

end Item

/-! ## Expressions -/

namespace Variable

section Labelled

variable {var : Variable} (names : ∀ name ∈ var.path, IsName name) (operator : Operator)

include names

/-- The last name of a path is a name. -/
theorem isName_of_label {text : Text} (known : var.label operator = some (.name text)) :
    IsName text := by
  rw [label] at known
  split at known
  · cases known
    exact names _ (List.getLast_mem var.path_ne_nil)
  · cases known

theorem proper_single (text : Text) : Item.Proper ⟨var.label operator, .single text⟩ := by
  constructor
  · intro name known
    exact isName_of_label names operator known
  · intro texts known
    cases known

theorem proper_joined {texts : List Text} (nonempty : texts ≠ []) :
    Item.Proper ⟨var.label operator, .joined texts⟩ := by
  constructor
  · intro name known
    exact isName_of_label names operator known
  · intro others known
    cases known
    exact nonempty

end Labelled

theorem proper_entry (key value : Text) : Item.Proper ⟨some (.entry key), .single value⟩ := by
  constructor
  · intro name known
    cases known
  · intro texts known
    cases known

/-- A list or a mapping without texts gives no item, and an item of several texts has some. -/
theorem proper_items {var : Variable} (names : ∀ name ∈ var.path, IsName name)
    (operator : Operator) (content : Content) :
    ∀ item ∈ var.items operator content, item.Proper := by
  intro item member
  cases content with
  | undefined => cases member
  | scalar text =>
      rw [List.mem_singleton.mp member]
      exact proper_single names operator _
  | list texts =>
      rw [items] at member
      split at member
      · cases member
      split at member
      · rcases List.mem_map.mp member with ⟨text, _, rfl⟩
        exact proper_single names operator text
      next someTexts _ =>
        rw [List.mem_singleton.mp member]
        apply proper_joined names operator
        simpa using someTexts
  | mapping entries =>
      rw [items] at member
      split at member
      · cases member
      split at member
      · rcases List.mem_map.mp member with ⟨entry, _, rfl⟩
        exact proper_entry entry.1 entry.2
      next someEntries _ =>
        rw [List.mem_singleton.mp member]
        apply proper_joined names operator
        rcases List.exists_cons_of_ne_nil someEntries with ⟨entry, rest, rfl⟩
        exact List.cons_ne_nil _ _

end Variable

theorem Expression.proper_items {expression : Expression}
    (names : ∀ var ∈ expression.vars, ∀ name ∈ var.path, IsName name) {data : Value}
    {items : List Item} (made : expression.items data = .ok items) :
    ∀ item ∈ items, item.Proper := by
  rcases exceptMap_ok.mp made with ⟨lists, found, rfl⟩
  intro item member
  rcases List.mem_flatten.mp member with ⟨list, inside, member⟩
  rcases exists_of_mapM found list inside with ⟨var, there, gives⟩
  rcases exceptBind_ok.mp gives with ⟨value, _, gives⟩
  rcases exceptBind_ok.mp gives with ⟨content, _, gives⟩
  cases gives
  exact Variable.proper_items (names var there) _ content item member

namespace Operator

end Operator

namespace Expression

end Expression

end UriTemplate
