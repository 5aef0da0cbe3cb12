import UriTemplate.Proofs.Expansion.Alphabet
import UriTemplate.Proofs.Percent.Pointwise

/-!
# Expansions with reserved characters

Two operators let reserved characters pass. Under them a text keeps its unreserved and its reserved
characters, and all bytes of any other code point become percent triplets. The percent sign is such
a code point, also where it begins a triplet. So a text with a triplet is encoded once more, and
only texts of unreserved and reserved characters have an expansion that expands to itself.
-/

set_option autoImplicit false

namespace UriTemplate

/-! ## Code points on their own -/

namespace CodePoint

/-- The characters that may stand in a URI by themselves. -/
def isAllowed (point : CodePoint) : Bool :=
  point.isUnreserved || point.isReserved

@[simp] theorem isAllowed_percent : (ofChar '%').isAllowed = false := by decide

theorem ascii_of_isAllowed {point : CodePoint} (allowed : point.isAllowed = true) :
    point.toNat < 0x80 := by
  rcases (Bool.or_eq_true _ _).mp allowed with unreserved | reserved
  · exact ascii_of_isUnreserved unreserved
  · exact ascii_of_isReserved reserved

theorem isAllowed_ofLatin (byte : UInt8) :
    (ofLatin byte).isAllowed = decide (ByteClass.ofByte byte ≠ .disallowed) := by
  rw [isAllowed, isUnreserved_ofLatin, isReserved_ofLatin]
  cases ByteClass.ofByte byte <;> rfl

end CodePoint

namespace Percent

open Utf8

/-- All bytes of a code point as percent triplets. -/
def triplets (coding : Coding) (point : CodePoint) : Text :=
  ((encodePoint coding point).flatMap triplet).map CodePoint.ofLatin

/-- A code point as it passes: itself if it may stand in a URI, and else its triplets. -/
def pass (coding : Coding) (point : CodePoint) : Text :=
  if point.isAllowed then [point] else triplets coding point

/-- The bytes of a code point are of the disallowed class unless it may stand in a URI. -/
theorem disallowed_iff_of_mem_encodePoint {coding : Coding} {point : CodePoint} {byte : UInt8}
    (member : byte ∈ encodePoint coding point) :
    ByteClass.ofByte byte = .disallowed ↔ point.isAllowed = false := by
  by_cases ascii : point.toNat < 0x80
  · rw [encodePoint_of_ascii coding ascii, List.mem_singleton] at member
    have same : CodePoint.ofLatin byte = point := by
      rw [member]
      exact CodePoint.ofLatin_ofNat (Nat.lt_trans ascii (by decide))
    rw [← same, CodePoint.isAllowed_ofLatin, decide_eq_false_iff_not, not_not]
  · have high := high_of_mem_encodePoint coding (Nat.not_lt.mp ascii) byte member
    apply iff_of_true (ByteClass.ofByte_of_high high)
    rw [Bool.eq_false_iff]
    exact fun allowed => ascii (CodePoint.ascii_of_isAllowed allowed)

/-- The mask with the disallowed class only has the number one. -/
theorem ofInt_one : Mask.ofInt 1 = .disallowedOnly := rfl

theorem contains_one_iff (byteClass : ByteClass) :
    Mask.Contains 1 byteClass ↔ byteClass = .disallowed := by
  cases byteClass <;> decide

/-- What is written for a code point under that mask. -/
theorem spellPoint_one (coding : Coding) (point : CodePoint) :
    spellPoint 1 coding point = pass coding point := by
  cases allowed : point.isAllowed with
  | true =>
      have ascii := CodePoint.ascii_of_isAllowed allowed
      have single := encodePoint_of_ascii coding ascii
      have member : UInt8.ofNat point.toNat ∈ encodePoint coding point := by
        rw [single]
        exact List.mem_singleton_self _
      have kept : ¬Mask.Contains 1 (.ofByte (UInt8.ofNat point.toNat)) := by
        rw [contains_one_iff, disallowed_iff_of_mem_encodePoint member, allowed]
        exact Bool.noConfusion
      rw [spellPoint, single, List.flatMap_singleton, spelling, if_neg kept, List.map_singleton,
        CodePoint.ofLatin_ofNat (Nat.lt_trans ascii (by decide)), pass, if_pos allowed]
  | false =>
      have each : (encodePoint coding point).flatMap (spelling 1) =
          (encodePoint coding point).flatMap triplet := by
        apply List.flatMap_congr
        intro byte member
        have chosen : Mask.Contains 1 (.ofByte byte) :=
          (contains_one_iff _).mpr ((disallowed_iff_of_mem_encodePoint member).mpr allowed)
        rw [spelling, if_pos chosen, triplet_eq]
      rw [spellPoint, each, pass, allowed, if_neg Bool.false_ne_true, triplets]

/-- Under that mask a text is written code point by code point. -/
theorem escape_disallowedOnly (text : Text) :
    escape .disallowedOnly text = text.flatMap (pass (codingOf text)) := by
  have each : spellPoint 1 (codingOf text) = pass (codingOf text) := by
    funext point
    exact spellPoint_one _ point
  rw [← ofInt_one, escape_eq_flatMap_spellPoint (by decide), each]

/-! ## Texts that stay as they are -/

theorem percent_mem_pass (coding : Coding) {point : CodePoint}
    (other : point.isAllowed = false) : CodePoint.ofChar '%' ∈ pass coding point := by
  rcases List.exists_mem_of_ne_nil _ (encodePoint_ne_nil coding point) with ⟨byte, member⟩
  rw [pass, other, if_neg Bool.false_ne_true, triplets, List.map_flatMap]
  refine List.mem_flatMap.mpr ⟨byte, member, ?_⟩
  rw [map_triplet]
  exact List.mem_cons_self

/-- What is written for a text has no other characters than those that may stand in a URI exactly
if the text has none. -/
theorem forall_isAllowed_flatMap_pass (coding : Coding) (text : Text) :
    (∀ point ∈ text.flatMap (pass coding), point.isAllowed = true) ↔
      ∀ point ∈ text, point.isAllowed = true := by
  constructor
  · intro written point member
    by_contra other
    have percent := percent_mem_pass coding (Bool.eq_false_iff.mpr other)
    have allowed := written _ (List.mem_flatMap.mpr ⟨point, member, percent⟩)
    rw [CodePoint.isAllowed_percent] at allowed
    cases allowed
  · intro allowed point member
    rcases List.mem_flatMap.mp member with ⟨origin, inside, member⟩
    rw [pass, if_pos (allowed origin inside), List.mem_singleton] at member
    rw [member]
    exact allowed origin inside

/-- A text stays as it is exactly if all its characters may stand in a URI. -/
theorem escape_disallowedOnly_eq_self_iff (text : Text) :
    escape .disallowedOnly text = text ↔ ∀ point ∈ text, point.isAllowed = true := by
  rw [← ofInt_one, escape_eq_self_iff]
  simp only [contains_one_iff]
  constructor
  · intro kept point member
    rcases List.exists_mem_of_ne_nil _ (encodePoint_ne_nil (codingOf text) point) with
      ⟨byte, inside⟩
    have allowed := kept byte (List.mem_flatMap.mpr ⟨point, member, inside⟩)
    rwa [disallowed_iff_of_mem_encodePoint inside, Bool.not_eq_false] at allowed
  · intro allowed byte member
    rcases List.mem_flatMap.mp member with ⟨point, inside, member⟩
    rw [disallowed_iff_of_mem_encodePoint member, allowed point inside]
    exact Bool.noConfusion

/-- Encoding a text once more gives the same exactly if there was nothing to encode. -/
theorem escape_escape_iff (text : Text) :
    escape .disallowedOnly (escape .disallowedOnly text) = escape .disallowedOnly text ↔
      ∀ point ∈ text, point.isAllowed = true := by
  rw [escape_disallowedOnly_eq_self_iff, escape_disallowedOnly, forall_isAllowed_flatMap_pass]

/-! ## Texts with triplets -/

/-- Some three code points of a text in a row are a percent triplet. -/
def HasTriplet (text : Text) : Prop :=
  ∃ high low, high.isHexDigit = true ∧ low.isHexDigit = true ∧
    (['%', high, low] : Text) <:+: text

/-- What is written for a text if triplets in it are to pass like characters of a URI. -/
def passTriplets (coding : Coding) : Text → Text
  | mark :: high :: low :: rest =>
      if mark = '%' ∧ high.isHexDigit = true ∧ low.isHexDigit = true then
        mark :: high :: low :: passTriplets coding rest
      else
        pass coding mark ++ passTriplets coding (high :: low :: rest)
  | point :: rest => pass coding point ++ passTriplets coding rest
  | [] => []

theorem hasTriplet_cons_iff {point : CodePoint} {rest : Text}
    (other : ∀ high low after, point = '%' → rest = high :: low :: after →
      ¬(high.isHexDigit = true ∧ low.isHexDigit = true)) :
    HasTriplet (point :: rest) ↔ HasTriplet rest := by
  constructor
  · rintro ⟨high, low, highDigit, lowDigit, inside⟩
    rcases List.infix_cons_iff.mp inside with ⟨after, equal⟩ | inside
    · cases equal
      exact absurd ⟨highDigit, lowDigit⟩ (other high low after rfl rfl)
    · exact ⟨high, low, highDigit, lowDigit, inside⟩
  · rintro ⟨high, low, highDigit, lowDigit, inside⟩
    exact ⟨high, low, highDigit, lowDigit, List.infix_cons_iff.mpr (.inr inside)⟩

/-- A percent sign alone is three code points long when it is written. -/
theorem pass_percent (coding : Coding) : pass coding '%' = "%25" := by
  cases coding <;> decide

theorem one_le_length_pass (coding : Coding) (point : CodePoint) :
    1 ≤ (pass coding point).length := by
  cases allowed : point.isAllowed with
  | true => rw [pass, if_pos allowed, List.length_singleton]
  | false => exact List.length_pos_of_mem (percent_mem_pass coding allowed)

/-- A triplet that passes takes up less than one that is encoded. -/
theorem length_passTriplets_le (coding : Coding) (text : Text) :
    (passTriplets coding text).length ≤ (text.flatMap (pass coding)).length := by
  fun_induction passTriplets coding text with
  | case1 mark high low rest _ ih =>
      have markLength := one_le_length_pass coding mark
      have highLength := one_le_length_pass coding high
      have lowLength := one_le_length_pass coding low
      simp only [List.flatMap_cons, List.length_append, List.length_cons]
      omega
  | case2 mark high low rest _ ih =>
      rw [List.flatMap_cons, List.length_append, List.length_append]
      exact Nat.add_le_add_left ih _
  | case3 point rest _ ih =>
      rw [List.flatMap_cons, List.length_append, List.length_append]
      exact Nat.add_le_add_left ih _
  | case4 => exact Nat.le_refl _

/-- It makes no difference whether triplets are to pass exactly if there are none. -/
theorem flatMap_pass_eq_passTriplets_iff (coding : Coding) (text : Text) :
    text.flatMap (pass coding) = passTriplets coding text ↔ ¬HasTriplet text := by
  fun_induction passTriplets coding text with
  | case1 mark high low rest triplet ih =>
      rcases triplet with ⟨rfl, highDigit, lowDigit⟩
      -- Encoded the triplet takes up five code points, and what is behind it is not any shorter.
      apply iff_of_false
      · intro same
        have lengths := congrArg List.length same
        have highLength := one_le_length_pass coding high
        have lowLength := one_le_length_pass coding low
        have restLength := length_passTriplets_le coding rest
        have markLength : (pass coding '%').length = 3 := by
          rw [pass_percent]
          rfl
        simp only [List.flatMap_cons, List.length_append, List.length_cons] at lengths
        omega
      · intro noTriplet
        exact noTriplet ⟨high, low, highDigit, lowDigit, (List.prefix_append _ rest).isInfix⟩
  | case2 mark high low rest other ih =>
      have behind : HasTriplet (mark :: high :: low :: rest) ↔
          HasTriplet (high :: low :: rest) := by
        apply hasTriplet_cons_iff
        intro first second after percent equal digits
        cases equal
        exact other ⟨percent, digits⟩
      rw [List.flatMap_cons, List.append_right_inj, ih, behind]
  | case3 point rest short ih =>
      rw [List.flatMap_cons, List.append_right_inj, ih, hasTriplet_cons_iff]
      intro high low after _ equal
      exact absurd equal (short high low after)
  | case4 =>
      apply iff_of_true rfl
      rintro ⟨high, low, _, _, inside⟩
      cases List.infix_nil.mp inside

end Percent

/-! ## Expressions -/

namespace Expression

/-- An expression with one variable expands to the one item of a scalar, if that has a text. -/
theorem expand_scalar (operator : Operator) {var : Variable} {data value : Value}
    (found : data.resolve var.path = .ok value) (scalar : value.kind = .scalar) :
    expand ⟨operator, [var], List.cons_ne_nil _ _⟩ data = value.text.map fun whole =>
      operator.first ++ ItemWriter.itemText operator var.name
        (Percent.escape operator.mask (var.limited whole)) := by
  have written : var.write operator data .empty = value.text.map fun whole =>
      ItemWriter.empty.write operator var.name
        (Percent.escape operator.mask (var.limited whole)) := by
    rw [Variable.write, found]
    simp only [bind, Except.bind, scalar, Value.format, Variable.cut_maxLength?]
    cases value.text <;> rfl
  rw [expand, List.foldlM_cons, written]
  cases value.text <;> rfl

/-- Under the operators that let reserved characters pass, a scalar is written code point by code
point: itself if it is unreserved or reserved, and the triplets of its bytes otherwise. A percent
sign is always encoded, so triplets pass only where there are none, and a second expansion leaves
an expansion as it is only if the text had nothing to encode. A scalar without a text has no
expansion either. -/
theorem expand_reserved {operator : Operator} (passing : operator ∈ [Operator.reserved, .fragment])
    {var : Variable} {data value : Value} (found : data.resolve var.path = .ok value)
    (scalar : value.kind = .scalar) :
    let expression : Expression := ⟨operator, [var], List.cons_ne_nil _ _⟩
    (∀ error, expression.expand data = .error error ↔ value.text = .error error) ∧
      ∀ whole, value.text = .ok whole →
        let text := var.limited whole
        let coding := Utf8.codingOf text
        let written := text.flatMap (Percent.pass coding)
        expression.expand data = .ok (operator.first ++ written) ∧
          (expression.expand data = .ok (operator.first ++ Percent.passTriplets coding text) ↔
            ¬Percent.HasTriplet text) ∧
          ∀ again next : Value, var.maxLength? = none → again.resolve var.path = .ok next →
            next.kind = .scalar → next.text = .ok written →
              (expression.expand again = expression.expand data ↔
                ∀ point ∈ text, point.isAllowed = true) := by
  intro expression
  have unnamed : operator.named = false := by
    have every : ∀ operator ∈ [Operator.reserved, .fragment], operator.named = false := by decide
    exact every operator passing
  have mask : operator.mask = .disallowedOnly := by
    have every : ∀ operator ∈ [Operator.reserved, .fragment],
        operator.mask = .disallowedOnly := by decide
    exact every operator passing
  have expands : ∀ {data value : Value}, data.resolve var.path = .ok value →
      value.kind = .scalar → expression.expand data = value.text.map fun whole =>
        operator.first ++ Percent.escape .disallowedOnly (var.limited whole) := by
    intro data value found scalar
    rw [expand_scalar operator found scalar]
    simp only [ItemWriter.itemText, unnamed, mask, Bool.false_eq_true, if_false]
  constructor
  · intro error
    rw [expands found scalar, exceptMap_error]
  intro whole shown text coding written
  have once : expression.expand data = .ok (operator.first ++ written) := by
    rw [expands found scalar, shown]
    exact congrArg (fun text => Except.ok (operator.first ++ text))
      (Percent.escape_disallowedOnly text)
  refine ⟨once, ?_, ?_⟩
  · rw [once, Except.ok.injEq, List.append_right_inj]
    exact Percent.flatMap_pass_eq_passTriplets_iff coding text
  · intro again next unlimited foundAgain scalarAgain same
    have twice : expression.expand again =
        .ok (operator.first ++ Percent.escape .disallowedOnly written) := by
      rw [expands foundAgain scalarAgain, same]
      simp only [← Variable.cut_maxLength?, unlimited]
      rfl
    have escaped : written = Percent.escape .disallowedOnly text :=
      (Percent.escape_disallowedOnly text).symm
    rw [once, twice, Except.ok.injEq, List.append_right_inj, escaped]
    exact Percent.escape_escape_iff text

/-- A space and a letter outside ASCII are encoded, delimiters are not, and what is encoded would
be encoded again. -/
theorem expand_reserved_letter :
    Operator.fragment ∈ [Operator.reserved, .fragment] ∧
      expand ⟨.fragment, [⟨["x"], none, by simp⟩], by simp⟩
        ⟨.mapping [(.text "x", .text "a é/?")], .mapping⟩ = .ok "#a%20%C3%A9/?" ∧
      expand ⟨.fragment, [⟨["x"], none, by simp⟩], by simp⟩
        ⟨.mapping [(.text "x", .text "a%20%C3%A9/?")], .mapping⟩ ≠ .ok "#a%20%C3%A9/?" := by
  have passing : Operator.fragment ∈ [Operator.reserved, .fragment] := by decide
  have found : Value.resolve ⟨.mapping [(.text "x", .text "a é/?")], .mapping⟩
      (⟨["x"], none, by simp⟩ : Variable).path = .ok ⟨.text "a é/?", .scalar⟩ := rfl
  have foundAgain : Value.resolve ⟨.mapping [(.text "x", .text "a%20%C3%A9/?")], .mapping⟩
      (⟨["x"], none, by simp⟩ : Variable).path = .ok ⟨.text "a%20%C3%A9/?", .scalar⟩ := rfl
  rcases (expand_reserved passing found rfl).2 _ rfl with ⟨once, _, twice⟩
  have encoded : ("a é/?" : Text).flatMap (Percent.pass (Utf8.codingOf ("a é/?" : Text))) =
      "a%20%C3%A9/?" := by
    decide +kernel
  have first : expand ⟨.fragment, [⟨["x"], none, by simp⟩], by simp⟩
      ⟨.mapping [(.text "x", .text "a é/?")], .mapping⟩ = .ok "#a%20%C3%A9/?" :=
    once.trans (congrArg (fun text => Except.ok (Operator.fragment.first ++ text)) encoded)
  refine ⟨passing, first, fun same => ?_⟩
  have shownAgain := congrArg (@Except.ok ShapeError Text) encoded.symm
  have allowed := (twice _ _ rfl foundAgain rfl shownAgain).mp (same.trans first.symm)
  exact absurd (allowed ' ' (by decide +kernel)) (by decide)

/-- The reserved expansion of a text that a mapping has. -/
theorem expand_reserved_text (text : Text) :
    expand ⟨.reserved, [⟨["x"], none, by simp⟩], by simp⟩
        ⟨.mapping [(.text "x", .text text)], .mapping⟩ =
      .ok (text.flatMap (Percent.pass (Utf8.codingOf text))) := by
  have found : Value.resolve ⟨.mapping [(.text "x", .text text)], .mapping⟩ ["x"] =
      .ok ⟨.text text, .scalar⟩ := rfl
  rw [expand_scalar .reserved found rfl, ← Percent.escape_disallowedOnly]
  rfl

/-- A triplet is encoded, and once more when its expansion is expanded. -/
theorem expand_reserved_triplet :
    Percent.passTriplets .strayBytes "%20" = "%20" ∧
      expand ⟨.reserved, [⟨["x"], none, by simp⟩], by simp⟩
        ⟨.mapping [(.text "x", .text "%20")], .mapping⟩ = .ok "%2520" ∧
      expand ⟨.reserved, [⟨["x"], none, by simp⟩], by simp⟩
        ⟨.mapping [(.text "x", .text "%2520")], .mapping⟩ = .ok "%252520" := by
  refine ⟨by decide +kernel, ?_, ?_⟩
  · rw [expand_reserved_text]
    exact congrArg Except.ok (by decide +kernel)
  · rw [expand_reserved_text]
    exact congrArg Except.ok (by decide +kernel)

end Expression

end UriTemplate
