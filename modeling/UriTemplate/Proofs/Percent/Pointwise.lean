import Mathlib.Data.List.Basic
import UriTemplate.Proofs.Percent.Escaping

/-!
# Escaping code point by code point

Under a mask with the disallowed class each code point should be written on its own: a carried byte
as that byte, and any other surrogate as the three bytes of its number. But one coding is chosen for
the whole text. A single surrogate that carries no byte lets all carried bytes of its text be
written like surrogates, and only such texts are written otherwise than code point by code point.
Two texts can be escaped apart unless just one of them has such a surrogate and the other one
carries a byte.
-/

set_option autoImplicit false

namespace UriTemplate

/-! ## The two codings -/

namespace Utf8

/-- Some surrogate of a text carries a byte. -/
def Carries (text : Text) : Prop :=
  ∃ point ∈ text, point.strayByte? ≠ none

theorem encodable_append (left right : Text) :
    encodable (left ++ right) = (encodable left && encodable right) :=
  List.all_append

/-- A carried byte takes up two bytes more when it is written as a surrogate. -/
theorem length_encodePoint_generalized (point : CodePoint) :
    (encodePoint .generalized point).length =
      (encodePoint .strayBytes point).length + if point.strayByte? ≠ none then 2 else 0 := by
  cases carried : point.strayByte? with
  | none => simp only [encodePoint, carried, ne_eq, not_true, if_false, Nat.add_zero]
  | some byte =>
      have surrogate : 0xDC80 ≤ point.toNat ∧ point.toNat ≤ 0xDCFF := by
        simp only [CodePoint.strayByte?] at carried
        split at carried
        next bounds => exact bounds
        next => cases carried
      have long : (sequence point.toNat).length = 3 := by
        rw [sequence, if_neg (by omega), if_neg (by omega), if_pos (by omega)]
        rfl
      simp only [encodePoint, carried, long]
      rfl

theorem length_encode_generalized (text : Text) :
    (encode .generalized text).length = (encode .strayBytes text).length +
      2 * text.countP fun point => decide (point.strayByte? ≠ none) := by
  induction text with
  | nil => rfl
  | cons point text ih =>
      rw [encode_cons, encode_cons, List.length_append, List.length_append, ih,
        length_encodePoint_generalized, List.countP_cons]
      simp only [decide_eq_true_eq]
      split
      next => omega
      next => omega

/-- The two codings give a text different bytes exactly if it carries some. -/
theorem encode_generalized_eq_iff (text : Text) :
    encode .generalized text = encode .strayBytes text ↔ ¬Carries text := by
  constructor
  · rintro same ⟨point, member, carried⟩
    have lengths := length_encode_generalized text
    have found : 0 < text.countP fun point => decide (point.strayByte? ≠ none) :=
      List.countP_pos_iff.mpr ⟨point, member, decide_eq_true carried⟩
    rw [same] at lengths
    omega
  · intro carriesNone
    apply List.flatMap_congr
    intro point member
    have kept : point.strayByte? = none := by
      by_contra carried
      exact carriesNone ⟨point, member, carried⟩
    simp only [encodePoint, kept]

end Utf8

namespace Percent

open Utf8

/-- What is written for a code point by itself: its bytes in a coding, each spelled as a number
asks for. With stray bytes these are the one byte that a surrogate carries, and for all other code
points, other surrogates among them, the sequence of their number. -/
def spellPoint (number : Int) (coding : Coding) (point : CodePoint) : Text :=
  ((encodePoint coding point).flatMap (spelling number)).map CodePoint.ofLatin

/-- A text with surrogates of both kinds: one that carries a byte and one that carries none. -/
structure Mixed (text : Text) : Prop where
  carries : Carries text
  lone : encodable text = false

/-- The carried bytes of a text are lost beside a text with a surrogate that carries none. -/
structure LosesBytes (text beside : Text) : Prop where
  carries : Carries text
  encodable : encodable text = true
  lone : Utf8.encodable beside = false

variable {number : Int} {mask : Mask} {left right text : Text}

/-! ## Written bytes -/

/-- Under a mask with the disallowed class different bytes are written differently. -/
theorem map_encodeBytes_inj (disallowed : mask.disallowed = true) {first second : List UInt8} :
    (encodeBytes mask first).map CodePoint.ofLatin =
      (encodeBytes mask second).map CodePoint.ofLatin ↔ first = second := by
  constructor
  · intro same
    rw [← unescape_encodeBytes disallowed first, same, unescape_encodeBytes disallowed]
  · intro same
    rw [same]

/-- What is written for the code points of a text are the bytes of the text. -/
theorem flatMap_spellPoint (number : Int) (coding : Coding) (text : Text) :
    text.flatMap (spellPoint number coding) =
      (encodeBytes (.ofInt number) (encode coding text)).map CodePoint.ofLatin := by
  induction text with
  | nil => rfl
  | cons point text ih =>
      rw [List.flatMap_cons, ih, encode_cons, encodeBytes_append, List.map_append, spellPoint,
        encodeBytes_ofInt number (encodePoint coding point)]

/-- A text is written code point by code point in its own coding. -/
theorem escape_eq_flatMap_spellPoint (contains : Mask.Contains number .disallowed) (text : Text) :
    escape (.ofInt number) text = text.flatMap (spellPoint number (codingOf text)) := by
  rw [flatMap_spellPoint, escape_eq_map ((Mask.has_ofInt number .disallowed).mpr contains)]

theorem flatMap_spellPoint_eq_iff (contains : Mask.Contains number .disallowed) (text : Text) :
    text.flatMap (spellPoint number .generalized) = text.flatMap (spellPoint number .strayBytes) ↔
      ¬Carries text := by
  have disallowed := (Mask.has_ofInt number .disallowed).mpr contains
  rw [flatMap_spellPoint, flatMap_spellPoint, map_encodeBytes_inj disallowed,
    encode_generalized_eq_iff]

theorem escape_eq_flatMap_strayBytes_iff (contains : Mask.Contains number .disallowed)
    (text : Text) :
    escape (.ofInt number) text = text.flatMap (spellPoint number .strayBytes) ↔ ¬Mixed text := by
  rw [escape_eq_flatMap_spellPoint contains]
  cases encoded : encodable text with
  | true =>
      rw [codingOf_of_encodable encoded]
      refine iff_of_true rfl fun mixed => ?_
      rw [mixed.lone] at encoded
      cases encoded
  | false =>
      rw [codingOf_of_lone encoded, flatMap_spellPoint_eq_iff contains]
      exact not_congr ⟨fun carries => ⟨carries, encoded⟩, Mixed.carries⟩

/-! ## Two texts -/

theorem not_losesBytes_of_encodable (encoded : encodable right = true) :
    ¬LosesBytes left right := by
  intro loses
  rw [loses.lone] at encoded
  cases encoded

theorem not_losesBytes_of_lone (lone : encodable left = false) : ¬LosesBytes left right := by
  intro loses
  rw [loses.encodable] at lone
  cases lone

/-- Beside a text with a surrogate that carries no byte, a text is written as with one. -/
theorem flatMap_generalized_eq_escape_iff (contains : Mask.Contains number .disallowed)
    (lone : encodable right = false) :
    left.flatMap (spellPoint number .generalized) = escape (.ofInt number) left ↔
      ¬LosesBytes left right := by
  rw [escape_eq_flatMap_spellPoint contains]
  cases encoded : encodable left with
  | true =>
      rw [codingOf_of_encodable encoded, flatMap_spellPoint_eq_iff contains]
      exact not_congr ⟨fun carries => ⟨carries, encoded, lone⟩, LosesBytes.carries⟩
  | false =>
      rw [codingOf_of_lone encoded]
      exact iff_of_true rfl (not_losesBytes_of_lone encoded)

/-- Two texts are escaped apart unless one of them loses bytes beside the other. -/
theorem escape_append_iff (contains : Mask.Contains number .disallowed) (left right : Text) :
    escape (.ofInt number) (left ++ right) =
        escape (.ofInt number) left ++ escape (.ofInt number) right ↔
      ¬LosesBytes left right ∧ ¬LosesBytes right left := by
  rw [escape_eq_flatMap_spellPoint contains (left ++ right), List.flatMap_append]
  cases leftEncoded : encodable left with
  | true =>
      cases rightEncoded : encodable right with
      | true =>
          have whole : encodable (left ++ right) = true := by
            rw [encodable_append, leftEncoded, rightEncoded, Bool.and_true]
          rw [codingOf_of_encodable whole, escape_eq_flatMap_spellPoint contains left,
            escape_eq_flatMap_spellPoint contains right, codingOf_of_encodable leftEncoded,
            codingOf_of_encodable rightEncoded]
          exact iff_of_true rfl
            ⟨not_losesBytes_of_encodable rightEncoded, not_losesBytes_of_encodable leftEncoded⟩
      | false =>
          have whole : encodable (left ++ right) = false := by
            rw [encodable_append, rightEncoded, Bool.and_false]
          rw [codingOf_of_lone whole, escape_eq_flatMap_spellPoint contains right,
            codingOf_of_lone rightEncoded, List.append_left_inj,
            flatMap_generalized_eq_escape_iff contains rightEncoded,
            and_iff_left (not_losesBytes_of_encodable leftEncoded)]
  | false =>
      have whole : encodable (left ++ right) = false := by
        rw [encodable_append, leftEncoded, Bool.false_and]
      rw [codingOf_of_lone whole, escape_eq_flatMap_spellPoint contains left,
        codingOf_of_lone leftEncoded, List.append_right_inj,
        flatMap_generalized_eq_escape_iff contains leftEncoded,
        and_iff_right (not_losesBytes_of_lone leftEncoded)]

/-- Under a mask with the disallowed class each code point is written on its own, a carried byte as
that byte, in every text but the mixed ones. In these all surrogates are written as three bytes, so
two texts are escaped apart exactly if neither loses bytes beside the other. -/
theorem escape_pointwise_iff (contains : Mask.Contains number .disallowed) :
    (∀ text, (escape (.ofInt number) text = text.flatMap (spellPoint number .strayBytes) ↔
        ¬Mixed text) ∧
      (Mixed text →
        escape (.ofInt number) text = text.flatMap (spellPoint number .generalized))) ∧
    ∀ left right, escape (.ofInt number) (left ++ right) =
        escape (.ofInt number) left ++ escape (.ofInt number) right ↔
      ¬LosesBytes left right ∧ ¬LosesBytes right left := by
  refine ⟨fun text => ⟨escape_eq_flatMap_strayBytes_iff contains text, fun mixed => ?_⟩,
    escape_append_iff contains⟩
  rw [escape_eq_flatMap_spellPoint contains, codingOf_of_lone mixed.lone]

/-- A carried byte and a character are escaped apart. -/
theorem escape_pointwise_iff_character :
    Mask.Contains 1 .disallowed ∧
      escape (.ofInt 1) (([.ofStrayByte 0x80] : Text) ++ ("é" : Text)) = "%80%C3%A9" := by
  have contains : Mask.Contains 1 .disallowed := by decide
  refine ⟨contains, ?_⟩
  rw [((escape_pointwise_iff contains).2 _ _).mpr
    ⟨fun loses => absurd loses.lone (by decide), fun loses => absurd loses.lone (by decide)⟩]
  decide +kernel

/-- A carried byte before a surrogate that carries none is written like a surrogate itself. -/
theorem escape_mixed :
    Mask.Contains 1 .disallowed ∧
      escape (.ofInt 1) [.ofStrayByte 0x80, ⟨0xD800, by decide⟩] = "%ED%B2%80%ED%A0%80" ∧
      escape (.ofInt 1) [.ofStrayByte 0x80] ++ escape (.ofInt 1) [⟨0xD800, by decide⟩] =
        "%80%ED%A0%80" ∧
      escape (.ofInt 1) ([.ofStrayByte 0x80] ++ [⟨0xD800, by decide⟩]) ≠
        escape (.ofInt 1) [.ofStrayByte 0x80] ++ escape (.ofInt 1) [⟨0xD800, by decide⟩] := by
  decide +kernel

end Percent

end UriTemplate
