import Mathlib.Data.Int.Bitwise
import UriTemplate.Proofs.Percent.Unescape
import UriTemplate.Proofs.Utf8.Strict

/-!
# What escaping does to the bytes of a text

Escaping takes the bytes of a text apart and puts them together again, under any mask and with
either coding. Nothing in that can fail. With stray bytes every byte string is decoded. With
generalized coding a sequence that is cut would not be; but the bytes outside ASCII belong to one
class, so a mask chooses all bytes of a longer sequence or none of them.
-/

set_option autoImplicit false

namespace UriTemplate

/-! ## Masks as numbers -/

namespace Mask

/-- Whether a number has the bit of a class, in two's complement. -/
def Contains (number : Int) (byteClass : ByteClass) : Prop :=
  Int.land byteClass.flag number ≠ 0

instance (number : Int) (byteClass : ByteClass) : Decidable (Contains number byteClass) :=
  inferInstanceAs (Decidable (_ ≠ _))

theorem zero_land (number : Int) : Int.land 0 number = 0 := by
  cases number with
  | ofNat number => exact congrArg Int.ofNat (Nat.zero_and number)
  | negSucc number =>
      have empty : Nat.ldiff 0 number = 0 := by
        apply Nat.eq_of_testBit_eq
        intro place
        rw [Nat.testBit_ldiff, Nat.zero_testBit, Bool.false_and]
      exact congrArg Int.ofNat empty

/-- The lowest bit of a number is its remainder. -/
theorem land_one (number : Int) : Int.land 1 number = number % 2 := by
  have lowest : Int.land (Int.bit true 0) (Int.bit number.bodd number.div2) =
      Int.bit number.bodd 0 := by
    rw [Int.land_bit, Bool.true_and, zero_land]
  rw [Int.bit_decomp, Int.bit_val number.bodd] at lowest
  have one : Int.land 1 number = 2 * 0 + cond number.bodd 1 0 := lowest
  have whole := Int.bodd_add_div2 number
  cases odd : number.bodd with
  | false =>
      rw [odd, cond_false] at one whole
      omega
  | true =>
      rw [odd, cond_true] at one whole
      omega

/-- The other bits are those of half the number. -/
theorem land_double (left number : Int) :
    Int.land (2 * left) number = 2 * Int.land left (number / 2) := by
  have shifted := Int.land_bit false left number.bodd number.div2
  rw [Int.bit_decomp, Bool.false_and, Int.div2_val] at shifted
  exact shifted

/-- The mask of a number has the classes that the number contains. -/
theorem has_ofInt (number : Int) (byteClass : ByteClass) :
    (ofInt number).has byteClass = true ↔ Contains number byteClass := by
  rw [Contains]
  cases byteClass with
  | disallowed =>
      have bit : Int.land ByteClass.disallowed.flag number = number % 2 := land_one number
      rw [bit, has, ofInt, beq_iff_eq]
      omega
  | unreserved =>
      have bit : Int.land ByteClass.unreserved.flag number = 2 * Int.land 1 (number / 2) :=
        land_double 1 number
      rw [bit, land_one, has, ofInt, beq_iff_eq]
      omega
  | reserved =>
      have bit : Int.land ByteClass.reserved.flag number = 2 * Int.land 2 (number / 2) :=
        land_double 2 number
      have next : Int.land 2 (number / 2) = 2 * Int.land 1 (number / 2 / 2) :=
        land_double 1 (number / 2)
      rw [bit, next, land_one, has, ofInt, beq_iff_eq]
      omega

theorem selects_ofInt (number : Int) (byte : UInt8) :
    (ofInt number).selects byte = decide (Contains number (.ofByte byte)) := by
  rw [Bool.eq_iff_iff, decide_eq_true_iff]
  exact has_ofInt number (.ofByte byte)

end Mask

/-! ## Escaping step by step -/

namespace Percent

open Utf8

/-- What becomes of the bytes of a text: nothing if none of them is chosen, and otherwise what the
strict decoder makes of them when they are replaced. -/
def respell? (mask : Mask) (text : Text) (coding : Coding) (data : List UInt8) : Option Text :=
  if data.any mask.selects then decode? coding (encodeBytes mask data) else some text

/-- Escaping with all steps that may fail. The generalized coding is for texts that cannot be
encoded without it; no failure of the decoder is caught. -/
def escape? (mask : Mask) (text : Text) : Option Text :=
  match encode? .strayBytes text with
  | some data => respell? mask text .strayBytes data
  | none => (encode? .generalized text).bind (respell? mask text .generalized)

variable {mask : Mask} {coding : Coding} {text : Text}

/-- Outside ASCII a sequence has no ASCII byte. -/
theorem high_of_mem_sequence {number : Nat} (high : 0x80 ≤ number) (bound : number < 0x110000) :
    ∀ byte ∈ Utf8.sequence number, 0x80 ≤ byte.toNat := by
  simp only [Utf8.sequence, if_neg (Nat.not_lt.mpr high)]
  split
  next =>
    simp only [List.forall_mem_cons, List.not_mem_nil, false_imp_iff, implies_true, and_true,
      UInt8.toNat_ofNat']
    omega
  split
  next =>
    simp only [List.forall_mem_cons, List.not_mem_nil, false_imp_iff, implies_true, and_true,
      UInt8.toNat_ofNat']
    omega
  next =>
    simp only [List.forall_mem_cons, List.not_mem_nil, false_imp_iff, implies_true, and_true,
      UInt8.toNat_ofNat']
    omega

/-- Neither have other code points. -/
theorem high_of_mem_encodePoint (coding : Coding) {point : CodePoint} (high : 0x80 ≤ point.toNat) :
    ∀ byte ∈ encodePoint coding point, 0x80 ≤ byte.toNat := by
  simp only [encodePoint]
  split
  next byte carried =>
    intro other member
    simp only [CodePoint.strayByte?] at carried
    split at carried
    next =>
      rw [List.mem_singleton.mp member, ← Option.some.inj carried, UInt8.toNat_ofNat']
      omega
    next => cases carried
  next => exact high_of_mem_sequence high point.isLt

/-- ASCII bytes are the bytes of a text. -/
theorem encode_map_ofLatin (coding : Coding) {bytes : List UInt8}
    (ascii : ∀ byte ∈ bytes, byte.toNat < 0x80) :
    encode coding (bytes.map CodePoint.ofLatin) = bytes := by
  apply encode_of_decode?
  exact decode?_of_ascii coding ascii

/-- The bytes of a code point, when some of them are replaced, are those of a text. The bytes of a
longer sequence are all of one class. -/
theorem exists_encode_eq_point (mask : Mask) (point : CodePoint) :
    ∃ other, encodeBytes mask (encodePoint .generalized point) = encode .generalized other := by
  rw [encodePoint_generalized]
  by_cases high : 0x80 ≤ point.toNat
  · have bytes := high_of_mem_sequence high point.isLt
    -- All bytes of the sequence are disallowed, so the mask decides about them together.
    cases disallowed : mask.disallowed with
    | true =>
        refine ⟨_, (encode_map_ofLatin _ ?_).symm⟩
        intro byte member
        exact ascii_of_mem_encodeBytes disallowed member
    | false =>
        have clean : ∀ byte ∈ Utf8.sequence point.toNat, mask.selects byte = false := by
          intro byte member
          rw [Mask.selects, ByteClass.ofByte_of_high (bytes byte member)]
          exact disallowed
        refine ⟨[point], ?_⟩
        rw [encodeBytes_of_clean clean, encode_cons, encode_nil, List.append_nil,
          encodePoint_generalized]
  · refine ⟨_, (encode_map_ofLatin _ ?_).symm⟩
    intro byte member
    rw [Utf8.sequence, if_pos (by omega), encodeBytes_cons, encodeBytes_nil,
      List.append_nil] at member
    split at member
    next => exact ascii_of_mem_triplet member
    next =>
      rw [List.mem_singleton.mp member, UInt8.toNat_ofNat']
      omega

/-- The generalized bytes of a text, when some of them are replaced, are those of a text. -/
theorem exists_encode_eq (mask : Mask) (text : Text) :
    ∃ other, encodeBytes mask (encode .generalized text) = encode .generalized other := by
  induction text with
  | nil => exact ⟨[], rfl⟩
  | cons point text ih =>
      rcases exists_encode_eq_point mask point with ⟨first, pointEq⟩
      rcases ih with ⟨rest, textEq⟩
      refine ⟨first ++ rest, ?_⟩
      rw [encode_cons, encodeBytes_append, pointEq, textEq, encode_append]

/-- The strict decoder takes the bytes of a text when some of them are replaced. -/
theorem decode?_encodeBytes (mask : Mask) (coding : Coding) (text : Text) :
    decode? coding (encodeBytes mask (encode coding text)) =
      some (decode coding (encodeBytes mask (encode coding text))) := by
  cases coding with
  | strayBytes => exact decode?_strayBytes _
  | generalized =>
      rcases exists_encode_eq mask text with ⟨other, equal⟩
      have decoded := decode?_encode other
      rw [equal, decode_of_decode? decoded, decoded]

theorem respell?_eq (mask : Mask) (text : Text) :
    respell? mask text (codingOf text) (encode (codingOf text) text) =
      some (escape mask text) := by
  rw [respell?, escape, isClean]
  cases chosen : (encode (codingOf text) text).any mask.selects with
  | false => rfl
  | true => exact decode?_encodeBytes mask _ text

/-- The coding of a text is the first that has bytes for it. -/
theorem encode?_codingOf (text : Text) :
    encode? (codingOf text) text = some (encode (codingOf text) text) := by
  rw [codingOf]
  cases encoded : encodable text with
  | true => simp only [if_true, encode?, encoded]
  | false => rfl

/-- No step of escaping fails. -/
theorem escape?_eq (mask : Mask) (text : Text) : escape? mask text = some (escape mask text) := by
  rw [← respell?_eq, escape?, codingOf]
  cases encoded : encodable text with
  | true => simp only [encode?, encoded, if_true]
  | false => simp only [encode?, encoded, Bool.false_eq_true, if_false, Option.bind_some]

/-- The bytes of an escaped text are those of the text, replaced. -/
theorem encode_escape (mask : Mask) (text : Text) :
    encode (codingOf text) (escape mask text) =
      encodeBytes mask (encode (codingOf text) text) := by
  cases clean : isClean mask text with
  | true =>
      have kept : ∀ byte ∈ encode (codingOf text) text, mask.selects byte = false := by
        simpa [isClean] using clean
      rw [escape_of_isClean clean, encodeBytes_of_clean kept]
  | false =>
      have escaped : escape mask text =
          decode (codingOf text) (encodeBytes mask (encode (codingOf text) text)) := by
        simp only [escape, clean, Bool.false_eq_true, if_false]
      rw [escaped]
      exact encode_of_decode? (decode?_encodeBytes mask _ text)

/-- An escaped text has bytes in the coding of the text. -/
theorem encode?_escape (mask : Mask) (text : Text) :
    encode? (codingOf text) (escape mask text) =
      some (encodeBytes mask (encode (codingOf text) text)) := by
  rw [← encode_escape]
  cases encoded : encodable text with
  | false =>
      rw [codingOf, encoded]
      rfl
  | true =>
      have coding : codingOf text = .strayBytes := by
        rw [codingOf, encoded, if_pos rfl]
      have encodableResult : encodable (escape mask text) = true := by
        rw [escape, coding]
        split
        · exact encoded
        · exact encodable_decode _
      rw [coding, encode?, if_pos encodableResult]

/-! ## Escaping by numbers -/

/-- The digits `0123456789ABCDEF`. -/
def upperDigits : List UInt8 :=
  [0x30, 0x31, 0x32, 0x33, 0x34, 0x35, 0x36, 0x37, 0x38, 0x39, 0x41, 0x42, 0x43, 0x44, 0x45, 0x46]

/-- What is written for a byte under the mask of a number: a percent sign and two digits if the
number contains the class of the byte, and otherwise the byte. -/
def spelling (number : Int) (byte : UInt8) : List UInt8 :=
  if Mask.Contains number (.ofByte byte) then
    [0x25, upperDigits.getD (byte.toNat / 16) 0, upperDigits.getD (byte.toNat % 16) 0]
  else
    [byte]

theorem triplet_eq (byte : UInt8) :
    triplet byte =
      [0x25, upperDigits.getD (byte.toNat / 16) 0, upperDigits.getD (byte.toNat % 16) 0] := by
  revert byte
  apply forall_byte
  decide +kernel

theorem encodeBytes_ofInt (number : Int) (data : List UInt8) :
    encodeBytes (.ofInt number) data = data.flatMap (spelling number) := by
  have each : (fun byte => if (Mask.ofInt number).selects byte then triplet byte else [byte]) =
      spelling number := by
    funext byte
    simp only [spelling, Mask.selects_ofInt, decide_eq_true_eq, triplet_eq]
  rw [encodeBytes, each]

/-- Each byte that is replaced takes up two bytes more. -/
theorem length_spelling (number : Int) (data : List UInt8) :
    (data.flatMap (spelling number)).length =
      data.length + 2 * data.countP fun byte => Mask.Contains number (.ofByte byte) := by
  induction data with
  | nil => rfl
  | cons byte data ih =>
      rw [List.flatMap_cons, List.length_append, ih, List.length_cons]
      by_cases chosen : Mask.Contains number (.ofByte byte)
      · rw [spelling, if_pos chosen, List.countP_cons_of_pos (by simpa using chosen)]
        simp only [List.length_cons, List.length_nil]
        omega
      · rw [spelling, if_neg chosen, List.countP_cons_of_neg (by simpa using chosen)]
        simp only [List.length_cons, List.length_nil]
        omega

/-- What escaping a text under the mask of a number comes to, byte by byte: its data are the bytes
of the text in the first coding that has some, and the result has in this coding the spelling of
each of them. -/
structure Escapes (number : Int) (text : Text) (coding : Coding) (data : List UInt8)
    (result : Text) : Prop where
  noFailure : escape? (.ofInt number) text = some result
  taken : encode? coding text = some data
  fallsBack : coding = .generalized ↔ encode? .strayBytes text = none
  written : encode? coding result = some (data.flatMap (spelling number))
  length : (data.flatMap (spelling number)).length =
    data.length + 2 * data.countP fun byte => Mask.Contains number (.ofByte byte)
  unchanged : result = text ↔ ∀ byte ∈ data, ¬Mask.Contains number (.ofByte byte)
  ascii : Mask.Contains number .disallowed → ∀ point ∈ result, point.toNat < 0x80
  decoded : Mask.Contains number .disallowed → unescape result = data

/-- A text is returned as it is exactly if none of its bytes is replaced. -/
theorem escape_eq_self_iff (number : Int) (text : Text) :
    escape (.ofInt number) text = text ↔
      ∀ byte ∈ encode (codingOf text) text, ¬Mask.Contains number (.ofByte byte) := by
  constructor
  · intro same
    have bytes := encode_escape (.ofInt number) text
    have length := length_spelling number (encode (codingOf text) text)
    rw [← encodeBytes_ofInt, ← bytes, same] at length
    have none : (encode (codingOf text) text).countP
        (fun byte => Mask.Contains number (.ofByte byte)) = 0 := by
      omega
    simpa using List.countP_eq_zero.mp none
  · intro kept
    apply escape_of_isClean
    simpa [isClean, Mask.selects_ofInt] using kept

/-- Escaping replaces the bytes of the classes that a number contains, and nothing else, for every
text and every number. -/
theorem escapes_escape (number : Int) (text : Text) :
    ∃ coding data, Escapes number text coding data (escape (.ofInt number) text) := by
  refine ⟨codingOf text, encode (codingOf text) text, ?_⟩
  have disallowed : Mask.Contains number .disallowed →
      (Mask.ofInt number).disallowed = true :=
    (Mask.has_ofInt number .disallowed).mpr
  constructor
  · exact escape?_eq _ _
  · exact encode?_codingOf text
  · rw [encode?, codingOf]
    cases encodable text <;> simp
  · rw [← encodeBytes_ofInt]
    exact encode?_escape _ _
  · exact length_spelling _ _
  · exact escape_eq_self_iff _ _
  · intro contains point member
    rw [escape_eq_map (disallowed contains)] at member
    rcases List.mem_map.mp member with ⟨byte, inside, rfl⟩
    exact ascii_of_mem_encodeBytes (disallowed contains) inside
  · intro contains
    exact unescape_escape (disallowed contains) text

end Percent

end UriTemplate
