import UriTemplate.Utf8

/-!
# Recovering bytes from a text

Decoding with stray bytes loses nothing: whatever the bytes are, encoding the decoded text
gives them back. A decoded text can therefore always be encoded, and spelling it anew from
its bytes changes nothing. Texts of ASCII characters have one byte for each character, in
either coding and in both directions.
-/

set_option autoImplicit false

namespace UriTemplate.Utf8

/-! ## Well-formed sequences -/

theorem toNat_of_continuation? {byte : UInt8} {bits : Nat}
    (read : continuation? byte = some bits) : byte.toNat = 0x80 + bits ∧ bits < 64 := by
  simp only [continuation?] at read
  split at read
  next bounds =>
    have bitsEq := Option.some.inj read
    omega
  next => cases read

theorem toNat_of_accept? {coding : Coding} {least number : Nat} {point : CodePoint}
    (accepted : accept? coding least number = some point) :
    point.toNat = number ∧ least ≤ number ∧
      (coding = .strayBytes → point.isSurrogate = false) := by
  simp only [accept?] at accepted
  split at accepted
  next bound =>
    rcases Option.filter_eq_some_iff.mp accepted with ⟨found, allowed⟩
    simp only [CodePoint.ofNat?] at found
    split at found
    next =>
      cases found
      refine ⟨rfl, bound, ?_⟩
      intro stray
      simpa [stray] using allowed
    next => cases found
  next => cases accepted

private theorem eq_ofNat_of_toNat {byte : UInt8} {number : Nat}
    (equal : byte.toNat = number) : UInt8.ofNat number = byte := by
  subst equal
  exact UInt8.ofNat_toNat

/-- The shortest sequence for a number with one continuation byte. -/
theorem sequence_two {lead next : UInt8} {high bits : Nat}
    (leadEq : lead.toNat = 0xC0 + high) (nextEq : next.toNat = 0x80 + bits)
    (highBound : high < 32) (bitsBound : bits < 64) (least : 0x80 ≤ high * 64 + bits) :
    sequence (high * 64 + bits) = [lead, next] := by
  have short : ¬high * 64 + bits < 0x80 := by omega
  have fits : high * 64 + bits < 0x800 := by omega
  have leadBack : UInt8.ofNat (0xC0 + (high * 64 + bits) / 64) = lead :=
    eq_ofNat_of_toNat (by omega)
  have nextBack : UInt8.ofNat (0x80 + (high * 64 + bits) % 64) = next :=
    eq_ofNat_of_toNat (by omega)
  simp only [sequence, short, if_false, fits, if_true, leadBack, nextBack]

/-- The shortest sequence for a number with two continuation bytes. -/
theorem sequence_three {lead next last : UInt8} {high bits more : Nat}
    (leadEq : lead.toNat = 0xE0 + high) (nextEq : next.toNat = 0x80 + bits)
    (lastEq : last.toNat = 0x80 + more) (highBound : high < 16) (bitsBound : bits < 64)
    (moreBound : more < 64) (least : 0x800 ≤ (high * 64 + bits) * 64 + more) :
    sequence ((high * 64 + bits) * 64 + more) = [lead, next, last] := by
  have short : ¬(high * 64 + bits) * 64 + more < 0x80 := by omega
  have medium : ¬(high * 64 + bits) * 64 + more < 0x800 := by omega
  have fits : (high * 64 + bits) * 64 + more < 0x10000 := by omega
  have leadBack : UInt8.ofNat (0xE0 + ((high * 64 + bits) * 64 + more) / 4096) = lead :=
    eq_ofNat_of_toNat (by omega)
  have nextBack : UInt8.ofNat (0x80 + ((high * 64 + bits) * 64 + more) / 64 % 64) = next :=
    eq_ofNat_of_toNat (by omega)
  have lastBack : UInt8.ofNat (0x80 + ((high * 64 + bits) * 64 + more) % 64) = last :=
    eq_ofNat_of_toNat (by omega)
  simp only [sequence, short, medium, if_false, fits, if_true, leadBack, nextBack, lastBack]

/-- The shortest sequence for a number with three continuation bytes. -/
theorem sequence_four {lead next third last : UInt8} {high bits more rest : Nat}
    (leadEq : lead.toNat = 0xF0 + high) (nextEq : next.toNat = 0x80 + bits)
    (thirdEq : third.toNat = 0x80 + more) (lastEq : last.toNat = 0x80 + rest)
    (bitsBound : bits < 64) (moreBound : more < 64) (restBound : rest < 64)
    (least : 0x10000 ≤ ((high * 64 + bits) * 64 + more) * 64 + rest) :
    sequence (((high * 64 + bits) * 64 + more) * 64 + rest) = [lead, next, third, last] := by
  have short : ¬((high * 64 + bits) * 64 + more) * 64 + rest < 0x80 := by omega
  have medium : ¬((high * 64 + bits) * 64 + more) * 64 + rest < 0x800 := by omega
  have long : ¬((high * 64 + bits) * 64 + more) * 64 + rest < 0x10000 := by omega
  have leadBack :
      UInt8.ofNat (0xF0 + (((high * 64 + bits) * 64 + more) * 64 + rest) / 262144) = lead :=
    eq_ofNat_of_toNat (by omega)
  have nextBack :
      UInt8.ofNat (0x80 + (((high * 64 + bits) * 64 + more) * 64 + rest) / 4096 % 64) = next :=
    eq_ofNat_of_toNat (by omega)
  have thirdBack :
      UInt8.ofNat (0x80 + (((high * 64 + bits) * 64 + more) * 64 + rest) / 64 % 64) = third :=
    eq_ofNat_of_toNat (by omega)
  have lastBack :
      UInt8.ofNat (0x80 + (((high * 64 + bits) * 64 + more) * 64 + rest) % 64) = last :=
    eq_ofNat_of_toNat (by omega)
  simp only [sequence, short, medium, long, if_false, leadBack, nextBack, thirdBack, lastBack]

/-- Continuation bytes are read one at a time. -/
theorem exists_of_continuations? {count number result : Nat} {bytes rest : List UInt8}
    (read : continuations? (count + 1) number bytes = some (result, rest)) :
    ∃ byte bits after, bytes = byte :: after ∧ byte.toNat = 0x80 + bits ∧ bits < 64 ∧
      continuations? count (number * 64 + bits) after = some (result, rest) := by
  cases bytes with
  | nil => cases read
  | cons byte after =>
      rcases Option.bind_eq_some_iff.mp read with ⟨bits, continued, read⟩
      rcases toNat_of_continuation? continued with ⟨byteEq, bound⟩
      exact ⟨byte, bits, after, rfl, byteEq, bound, read⟩

/-- A lead byte and its continuation bytes are the shortest sequence of what they spell. -/
theorem eq_sequence_of_continuations? {byte : UInt8} {lead : Lead} {number : Nat}
    {bytes rest : List UInt8} (found : lead? byte = some lead)
    (read : continuations? lead.count lead.high bytes = some (number, rest))
    (least : lead.least ≤ number) : byte :: bytes = sequence number ++ rest := by
  have byteBound := byte.toNat_lt
  simp only [lead?] at found
  split at found
  next ascii =>
    cases found
    cases read
    simp only [sequence, ascii, if_true, UInt8.ofNat_toNat, List.cons_append, List.nil_append]
  split at found
  next => cases found
  split at found
  next =>
    cases found
    rcases exists_of_continuations? read with ⟨_, bits, after, rfl, nextEq, bound, read⟩
    cases read
    dsimp only at least ⊢
    have leadEq : byte.toNat = 0xC0 + (byte.toNat - 0xC0) := by omega
    rw [sequence_two leadEq nextEq (by omega) bound least]
    rfl
  split at found
  next =>
    cases found
    rcases exists_of_continuations? read with ⟨_, bits, after, rfl, nextEq, bound, read⟩
    rcases exists_of_continuations? read with ⟨_, more, after, rfl, lastEq, moreBound, read⟩
    cases read
    dsimp only at least ⊢
    have leadEq : byte.toNat = 0xE0 + (byte.toNat - 0xE0) := by omega
    rw [sequence_three leadEq nextEq lastEq (by omega) bound moreBound least]
    rfl
  split at found
  next =>
    cases found
    rcases exists_of_continuations? read with ⟨_, bits, after, rfl, nextEq, bound, read⟩
    rcases exists_of_continuations? read with ⟨_, more, after, rfl, thirdEq, moreBound, read⟩
    rcases exists_of_continuations? read with ⟨_, rest, after, rfl, lastEq, restBound, read⟩
    cases read
    dsimp only at least ⊢
    have leadEq : byte.toNat = 0xF0 + (byte.toNat - 0xF0) := by omega
    rw [sequence_four leadEq nextEq thirdEq lastEq bound moreBound restBound least]
    rfl
  next => cases found

/-- The bytes that a code point is read from are its shortest sequence, and strict decoding
reads no surrogate. -/
theorem eq_sequence_of_decodePoint? {coding : Coding} {bytes rest : List UInt8}
    {point : CodePoint} (read : decodePoint? coding bytes = some (point, rest)) :
    bytes = sequence point.toNat ++ rest ∧
      (coding = .strayBytes → point.isSurrogate = false) := by
  cases bytes with
  | nil => cases read
  | cons byte bytes =>
      rcases Option.bind_eq_some_iff.mp read with ⟨lead, found, read⟩
      rcases Option.bind_eq_some_iff.mp read with ⟨⟨number, after⟩, continued, mapped⟩
      rcases Option.map_eq_some_iff.mp mapped with ⟨_, accepted, equal⟩
      cases equal
      rcases toNat_of_accept? accepted with ⟨toNat, least, allowed⟩
      rw [toNat]
      exact ⟨eq_sequence_of_continuations? found continued least, allowed⟩

/-! ## Surrogates -/

theorem isSurrogate_eq_false_iff {point : CodePoint} :
    point.isSurrogate = false ↔ point.toNat < 0xD800 ∨ 0xDFFF < point.toNat := by
  simp only [CodePoint.isSurrogate, Bool.and_eq_false_iff, decide_eq_false_iff_not]
  omega

theorem strayByte?_eq_none {point : CodePoint} (character : point.isSurrogate = false) :
    point.strayByte? = none := by
  rw [isSurrogate_eq_false_iff] at character
  rw [CodePoint.strayByte?, if_neg]
  omega

theorem strayByte?_ofStrayByte {byte : UInt8} (high : 0x80 ≤ byte.toNat) :
    (CodePoint.ofStrayByte byte).strayByte? = some byte := by
  have bound := byte.toNat_lt
  rw [CodePoint.strayByte?, CodePoint.toNat_ofStrayByte, if_pos (by omega),
    Nat.add_sub_cancel_left, UInt8.ofNat_toNat]

theorem encodePoint_of_not_surrogate {coding : Coding} {point : CodePoint}
    (character : point.isSurrogate = false) :
    encodePoint coding point = sequence point.toNat := by
  simp only [encodePoint, strayByte?_eq_none character]

theorem encodePoint_ofStrayByte {byte : UInt8} (high : 0x80 ≤ byte.toNat) :
    encodePoint .strayBytes (.ofStrayByte byte) = [byte] := by
  simp only [encodePoint, strayByte?_ofStrayByte high]

/-- Bytes below `0x80` are code points of their own. -/
theorem decodePoint?_of_ascii {byte : UInt8} (coding : Coding) (ascii : byte.toNat < 0x80)
    (rest : List UInt8) :
    decodePoint? coding (byte :: rest) = some (.ofLatin byte, rest) := by
  have character : (CodePoint.ofLatin byte).isSurrogate = false := by
    rw [isSurrogate_eq_false_iff, CodePoint.toNat_ofLatin]
    omega
  have inside : byte.toNat < 0x110000 := by omega
  have point : (⟨byte.toNat, inside⟩ : CodePoint) = .ofLatin byte := rfl
  simp [decodePoint?, lead?, ascii, decodeTail?, continuations?, accept?, CodePoint.ofNat?,
    inside, point, character]

/-- A byte that begins no sequence is not an ASCII character. -/
theorem high_of_decodePoint?_eq_none {coding : Coding} {byte : UInt8} {rest : List UInt8}
    (stray : decodePoint? coding (byte :: rest) = none) : 0x80 ≤ byte.toNat := by
  by_cases ascii : byte.toNat < 0x80
  · rw [decodePoint?_of_ascii coding ascii] at stray
    cases stray
  · omega

theorem sequence_ne_nil (number : Nat) : sequence number ≠ [] := by
  simp only [sequence]
  split
  · simp
  split
  · simp
  split <;> simp

theorem encodePoint_ne_nil (coding : Coding) (point : CodePoint) :
    encodePoint coding point ≠ [] := by
  simp only [encodePoint]
  split
  · simp
  · exact sequence_ne_nil _

/-- Only the empty text has no bytes. -/
theorem eq_nil_of_encode_eq_nil {coding : Coding} {text : Text}
    (empty : encode coding text = []) : text = [] := by
  cases text with
  | nil => rfl
  | cons point rest =>
      rw [encode_cons, List.append_eq_nil_iff] at empty
      exact absurd empty.1 (encodePoint_ne_nil coding point)

/-! ## Bytes of decoded texts -/

/-- Encoding undoes decoding on every byte string. -/
theorem encode_decode (bytes : List UInt8) :
    encode .strayBytes (decode .strayBytes bytes) = bytes := by
  fun_induction decode .strayBytes bytes with
  | case1 => rfl
  | case2 lead rest point after read ih =>
      rcases eq_sequence_of_decodePoint? read with ⟨equal, character⟩
      rw [encode_cons, ih, encodePoint_of_not_surrogate (character rfl), equal]
  | case3 lead rest stray ih =>
      rw [encode_cons, ih, encodePoint_ofStrayByte (high_of_decodePoint?_eq_none stray)]
      rfl

/-- A decoded text can be encoded. -/
theorem encodable_decode (bytes : List UInt8) :
    encodable (decode .strayBytes bytes) = true := by
  fun_induction decode .strayBytes bytes with
  | case1 => rfl
  | case2 lead rest point after read ih =>
      have character := (eq_sequence_of_decodePoint? read).2 rfl
      rw [encodable, List.all_cons, Bool.and_eq_true]
      exact ⟨by simp [CodePoint.isLoneSurrogate, character], ih⟩
  | case3 lead rest stray ih =>
      have carried := strayByte?_ofStrayByte (high_of_decodePoint?_eq_none stray)
      rw [encodable, List.all_cons, Bool.and_eq_true]
      exact ⟨by simp [CodePoint.isLoneSurrogate, carried], ih⟩

/-- Only the empty byte string is decoded to the empty text. -/
theorem decode_eq_nil_iff {bytes : List UInt8} : decode .strayBytes bytes = [] ↔ bytes = [] := by
  constructor
  · intro empty
    rw [← encode_decode bytes, empty]
    rfl
  · intro empty
    subst empty
    exact decode_nil _

/-- Spelling a decoded text anew from its bytes changes nothing. -/
theorem rejoin_decode (bytes : List UInt8) :
    rejoin (decode .strayBytes bytes) = decode .strayBytes bytes := by
  rw [rejoin, encode_decode]

/-! ## ASCII -/

/-- ASCII characters have one byte. -/
theorem encodePoint_of_ascii (coding : Coding) {point : CodePoint} (ascii : point.toNat < 0x80) :
    encodePoint coding point = [UInt8.ofNat point.toNat] := by
  have character : point.isSurrogate = false := by
    rw [isSurrogate_eq_false_iff]
    omega
  rw [encodePoint_of_not_surrogate character, sequence, if_pos ascii]

/-- Outside ASCII every sequence ends with a continuation byte. -/
theorem mem_sequence_of_high {number : Nat} (high : 0x80 ≤ number) :
    UInt8.ofNat (0x80 + number % 64) ∈ sequence number := by
  simp only [sequence]
  rw [if_neg (by omega)]
  split
  · simp
  split <;> simp

/-- Only ASCII characters have ASCII bytes. -/
theorem ascii_of_encodePoint {coding : Coding} {point : CodePoint}
    (ascii : ∀ byte ∈ encodePoint coding point, byte.toNat < 0x80) : point.toNat < 0x80 := by
  by_cases high : 0x80 ≤ point.toNat
  · simp only [encodePoint] at ascii
    split at ascii
    next byte carried =>
      have small := ascii byte (by simp)
      simp only [CodePoint.strayByte?] at carried
      split at carried
      next =>
        rw [← Option.some.inj carried, UInt8.toNat_ofNat'] at small
        omega
      next => cases carried
    next =>
      have small := ascii _ (mem_sequence_of_high high)
      rw [UInt8.toNat_ofNat'] at small
      omega
  · omega

/-- ASCII bytes are decoded by themselves before any others. -/
theorem decode_append_of_ascii (coding : Coding) {bytes : List UInt8}
    (ascii : ∀ byte ∈ bytes, byte.toNat < 0x80) (rest : List UInt8) :
    decode coding (bytes ++ rest) = bytes.map CodePoint.ofLatin ++ decode coding rest := by
  induction bytes with
  | nil => rfl
  | cons byte bytes ih =>
      have head := decodePoint?_of_ascii coding (ascii byte (by simp)) (bytes ++ rest)
      rw [List.cons_append, decode_of_some head,
        ih fun other member => ascii other (by simp [member])]
      rfl

/-- ASCII bytes are decoded one by one. -/
theorem decode_of_ascii (coding : Coding) {bytes : List UInt8}
    (ascii : ∀ byte ∈ bytes, byte.toNat < 0x80) :
    decode coding bytes = bytes.map CodePoint.ofLatin := by
  have whole := decode_append_of_ascii coding ascii []
  rwa [List.append_nil, decode_nil, List.append_nil] at whole

end UriTemplate.Utf8
