import UriTemplate.Percent
import UriTemplate.Proofs.Utf8.Recovery

/-!
# Undoing percent-encoding

`unescape` reads a text as bytes: a triplet as the byte that its digits spell, and any other
code point as its own bytes. It undoes `escape` for every mask that has the disallowed class:
the percent sign and all bytes outside ASCII belong to that class, so what such a mask leaves
as it is consists of ASCII characters that cannot begin a triplet.
-/

set_option autoImplicit false

namespace UriTemplate

/-- The byte that two hexadecimal digits spell. -/
def CodePoint.hexByte? (high low : CodePoint) : Option UInt8 :=
  high.hexValue?.bind fun highValue =>
    low.hexValue?.map fun lowValue => UInt8.ofNat (highValue * 16 + lowValue)

/-- The code point of an ASCII character, from its byte. -/
theorem CodePoint.ofLatin_ofNat {point : CodePoint} (small : point.toNat < 0x100) :
    ofLatin (UInt8.ofNat point.toNat) = point := by
  apply ext_toNat
  rw [toNat_ofLatin, UInt8.toNat_ofNat']
  exact Nat.mod_eq_of_lt small

theorem CodePoint.ofLatin_injective {left right : UInt8} (equal : ofLatin left = ofLatin right) :
    left = right :=
  UInt8.toNat_inj.mp (congrArg CodePoint.toNat equal)

/-- A fact about all bytes is checked number by number. -/
theorem forall_byte {holds : UInt8 → Prop}
    (every : ∀ number < 256, holds (UInt8.ofNat number)) (byte : UInt8) : holds byte := by
  have found := every byte.toNat byte.toNat_lt
  rwa [UInt8.ofNat_toNat] at found

/-! ## Byte classes -/

namespace ByteClass

/-- No byte outside ASCII may stand in a URI. -/
theorem ofByte_of_high {byte : UInt8} : 0x80 ≤ byte.toNat → ofByte byte = .disallowed := by
  revert byte
  apply forall_byte
  decide +kernel

@[simp] theorem ofByte_percent : ofByte 0x25 = .disallowed := by decide

end ByteClass

namespace Mask

variable {mask : Mask}

theorem selects_of_high (disallowed : mask.disallowed = true) {byte : UInt8}
    (high : 0x80 ≤ byte.toNat) : mask.selects byte = true := by
  rw [selects, ByteClass.ofByte_of_high high]
  exact disallowed

/-- What a mask with the disallowed class leaves as it is, is an ASCII character. -/
theorem ascii_of_not_selects (disallowed : mask.disallowed = true) {byte : UInt8}
    (kept : mask.selects byte = false) : byte.toNat < 0x80 := by
  by_cases high : 0x80 ≤ byte.toNat
  · rw [selects_of_high disallowed high] at kept
    cases kept
  · omega

theorem ne_percent_of_not_selects (disallowed : mask.disallowed = true) {byte : UInt8}
    (kept : mask.selects byte = false) : byte ≠ 0x25 := by
  intro percent
  subst percent
  rw [selects, ByteClass.ofByte_percent] at kept
  exact Bool.false_ne_true (kept.symm.trans disallowed)

end Mask

/-! ## Triplets -/

/-- Digits of either case are ASCII characters. -/
theorem toNat_hexDigit_lt (letters : HexCase) (number : Nat) :
    (hexDigit letters number).toNat < 0x80 := by
  have every : ∀ digit < 16, (hexDigit letters digit).toNat < 0x80 := by
    cases letters <;> decide
  have reduced : hexDigit letters number = hexDigit letters (number % 16) := by
    simp only [hexDigit, Nat.mod_mod]
  rw [reduced]
  exact every (number % 16) (Nat.mod_lt _ (by decide))

theorem hexValue?_hexDigit_mod (letters : HexCase) (number : Nat) :
    (hexDigit letters number).hexValue? = some (number % 16) := by
  have reduced : hexDigit letters number = hexDigit letters (number % 16) := by
    simp only [hexDigit, Nat.mod_mod]
  rw [reduced]
  exact CodePoint.hexValue?_hexDigit letters (Nat.mod_lt _ (by decide))

namespace Percent

/-- The first digit of the triplet of a byte. -/
def highDigit (byte : UInt8) : CodePoint :=
  hexDigit .upper (byte.toNat / 16)

/-- The second digit of the triplet of a byte. -/
def lowDigit (byte : UInt8) : CodePoint :=
  hexDigit .upper byte.toNat

/-- A triplet as a text. -/
theorem map_triplet (byte : UInt8) :
    (triplet byte).map CodePoint.ofLatin = (['%', highDigit byte, lowDigit byte] : Text) := by
  have high : CodePoint.ofLatin (UInt8.ofNat (highDigit byte).toNat) = highDigit byte :=
    CodePoint.ofLatin_ofNat (Nat.lt_trans (toNat_hexDigit_lt _ _) (by decide))
  have low : CodePoint.ofLatin (UInt8.ofNat (lowDigit byte).toNat) = lowDigit byte :=
    CodePoint.ofLatin_ofNat (Nat.lt_trans (toNat_hexDigit_lt _ _) (by decide))
  calc (triplet byte).map CodePoint.ofLatin
      = (['%', CodePoint.ofLatin (UInt8.ofNat (highDigit byte).toNat),
          CodePoint.ofLatin (UInt8.ofNat (lowDigit byte).toNat)] : Text) := rfl
    _ = (['%', highDigit byte, lowDigit byte] : Text) := by rw [high, low]

/-- The digits of a triplet spell its byte. -/
theorem hexByte?_digits (byte : UInt8) :
    (highDigit byte).hexByte? (lowDigit byte) = some byte := by
  have bound := byte.toNat_lt
  simp only [CodePoint.hexByte?, highDigit, lowDigit, hexValue?_hexDigit_mod, Option.bind_some,
    Option.map_some, Option.some.injEq]
  have whole : byte.toNat / 16 % 16 * 16 + byte.toNat % 16 = byte.toNat := by omega
  rw [whole, UInt8.ofNat_toNat]

theorem ascii_of_mem_triplet {byte other : UInt8} (member : other ∈ triplet byte) :
    other.toNat < 0x80 := by
  have mapped : CodePoint.ofLatin other ∈ (['%', highDigit byte, lowDigit byte] : Text) := by
    rw [← map_triplet]
    exact List.mem_map_of_mem member
  have toNat : other.toNat = (CodePoint.ofLatin other).toNat := rfl
  simp only [List.mem_cons, List.not_mem_nil, or_false] at mapped
  rcases mapped with equal | equal | equal
  · rw [toNat, equal]
    decide
  · rw [toNat, equal]
    exact toNat_hexDigit_lt _ _
  · rw [toNat, equal]
    exact toNat_hexDigit_lt _ _

/-! ## Escaped texts -/

variable {mask : Mask}

@[simp] theorem encodeBytes_cons (mask : Mask) (byte : UInt8) (rest : List UInt8) :
    encodeBytes mask (byte :: rest) =
      (if mask.selects byte then triplet byte else [byte]) ++ encodeBytes mask rest := rfl

theorem ascii_of_mem_encodeBytes (disallowed : mask.disallowed = true) {byte : UInt8}
    {bytes : List UInt8} (member : byte ∈ encodeBytes mask bytes) : byte.toNat < 0x80 := by
  simp only [encodeBytes, List.mem_flatMap] at member
  rcases member with ⟨origin, _, inside⟩
  cases selected : mask.selects origin with
  | true =>
      rw [selected, if_pos rfl] at inside
      exact ascii_of_mem_triplet inside
  | false =>
      rw [selected, if_neg Bool.false_ne_true, List.mem_singleton] at inside
      rw [inside]
      exact Mask.ascii_of_not_selects disallowed selected

theorem encodeBytes_of_clean {bytes : List UInt8}
    (clean : ∀ byte ∈ bytes, mask.selects byte = false) : encodeBytes mask bytes = bytes := by
  induction bytes with
  | nil => rfl
  | cons byte rest ih =>
      have kept := clean byte (by simp)
      rw [encodeBytes_cons, kept, if_neg Bool.false_ne_true,
        ih fun other member => clean other (by simp [member])]
      rfl

/-- A text with ASCII bytes only is what its bytes are as characters. -/
theorem eq_map_encode {coding : Utf8.Coding} {text : Text}
    (ascii : ∀ byte ∈ Utf8.encode coding text, byte.toNat < 0x80) :
    text = (Utf8.encode coding text).map CodePoint.ofLatin := by
  induction text with
  | nil => rfl
  | cons point rest ih =>
      rw [Utf8.encode_cons] at ascii ⊢
      have small : point.toNat < 0x80 := by
        apply Utf8.ascii_of_encodePoint
        exact fun byte member => ascii byte (List.mem_append_left _ member)
      have tail := ih fun byte member => ascii byte (List.mem_append_right _ member)
      rw [Utf8.encodePoint_of_ascii coding small, List.map_append, List.map_singleton,
        CodePoint.ofLatin_ofNat (by omega), ← tail]
      rfl

/-- Under a mask with the disallowed class, an escaped text is the escaped bytes of the text
as ASCII characters. -/
theorem escape_eq_map (disallowed : mask.disallowed = true) (text : Text) :
    escape mask text =
      (encodeBytes mask (Utf8.encode (Utf8.codingOf text) text)).map CodePoint.ofLatin := by
  cases clean : isClean mask text with
  | true =>
      have kept : ∀ byte ∈ Utf8.encode (Utf8.codingOf text) text, mask.selects byte = false := by
        simpa [isClean] using clean
      rw [escape_of_isClean clean, encodeBytes_of_clean kept]
      exact eq_map_encode fun byte member => Mask.ascii_of_not_selects disallowed (kept byte member)
  | false =>
      simp only [escape, clean, Bool.false_eq_true, if_false]
      exact Utf8.decode_of_ascii _ fun byte member => ascii_of_mem_encodeBytes disallowed member

/-- Read a text as bytes, triplets as the bytes that they stand for. -/
def unescape : Text → List UInt8
  | mark :: high :: low :: rest =>
      match if mark = '%' then high.hexByte? low else none with
      | some byte => byte :: unescape rest
      | none => Utf8.encodePoint .strayBytes mark ++ unescape (high :: low :: rest)
  | point :: rest => Utf8.encodePoint .strayBytes point ++ unescape rest
  | [] => []

theorem unescape_triplet {high low : CodePoint} {byte : UInt8}
    (spelled : high.hexByte? low = some byte) (rest : Text) :
    unescape ('%' :: high :: low :: rest) = byte :: unescape rest := by
  rw [unescape, if_pos rfl, spelled]

theorem unescape_cons {point : CodePoint} (other : point ≠ '%') (rest : Text) :
    unescape (point :: rest) = Utf8.encodePoint .strayBytes point ++ unescape rest := by
  match rest with
  | [] => rfl
  | [_] => rfl
  | _ :: _ :: _ => rw [unescape, if_neg other]

theorem unescape_encodeBytes (disallowed : mask.disallowed = true) (bytes : List UInt8) :
    unescape ((encodeBytes mask bytes).map CodePoint.ofLatin) = bytes := by
  induction bytes with
  | nil => rfl
  | cons byte rest ih =>
      cases selected : mask.selects byte with
      | true =>
          rw [encodeBytes_cons, selected, if_pos rfl, List.map_append, map_triplet,
            List.cons_append, List.cons_append, List.cons_append, List.nil_append,
            unescape_triplet (hexByte?_digits byte), ih]
      | false =>
          have ascii := Mask.ascii_of_not_selects disallowed selected
          have other : CodePoint.ofLatin byte ≠ '%' := by
            intro equal
            exact Mask.ne_percent_of_not_selects disallowed selected
              (CodePoint.ofLatin_injective equal)
          rw [encodeBytes_cons, selected, if_neg Bool.false_ne_true, List.map_append,
            List.map_singleton, List.cons_append, List.nil_append, unescape_cons other,
            Utf8.encodePoint_of_ascii _ ascii, CodePoint.toNat_ofLatin, UInt8.ofNat_toNat, ih]
          rfl

/-- Reading an escaped text gives the bytes of the text. -/
theorem unescape_escape (disallowed : mask.disallowed = true) (text : Text) :
    unescape (escape mask text) = Utf8.encode (Utf8.codingOf text) text := by
  rw [escape_eq_map disallowed, unescape_encodeBytes disallowed]

/-- Without percent signs a text is read as its own bytes. -/
theorem unescape_of_not_mem {text : Text} (clean : CodePoint.ofChar '%' ∉ text) :
    unescape text = Utf8.encode .strayBytes text := by
  induction text with
  | nil => rfl
  | cons point rest ih =>
      rw [List.mem_cons, not_or] at clean
      rw [unescape_cons (Ne.symm clean.1), ih clean.2, Utf8.encode_cons]

/-- A byte that is replaced and is no part of a triplet does not occur in an escaped text. -/
theorem not_mem_escape (disallowed : mask.disallowed = true) {byte : UInt8}
    (selected : mask.selects byte = true) (mark : byte ≠ 0x25)
    (noDigit : (CodePoint.ofLatin byte).hexValue? = none) (text : Text) :
    CodePoint.ofLatin byte ∉ escape mask text := by
  rw [escape_eq_map disallowed]
  intro member
  rcases List.mem_map.mp member with ⟨other, inside, same⟩
  rw [CodePoint.ofLatin_injective same] at inside
  simp only [encodeBytes, List.mem_flatMap] at inside
  rcases inside with ⟨origin, _, inside⟩
  cases replaced : mask.selects origin with
  | true =>
      rw [replaced, if_pos rfl] at inside
      have spelled : CodePoint.ofLatin byte ∈ (triplet origin).map CodePoint.ofLatin :=
        List.mem_map_of_mem inside
      simp only [map_triplet, List.mem_cons, List.not_mem_nil, or_false] at spelled
      rcases spelled with equal | equal | equal
      · exact mark (CodePoint.ofLatin_injective equal)
      · rw [equal, highDigit, hexValue?_hexDigit_mod] at noDigit
        cases noDigit
      · rw [equal, lowDigit, hexValue?_hexDigit_mod] at noDigit
        cases noDigit
  | false =>
      rw [replaced, if_neg Bool.false_ne_true, List.mem_singleton] at inside
      rw [inside, replaced] at selected
      cases selected

end Percent

end UriTemplate
