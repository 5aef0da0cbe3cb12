import UriTemplate.Proofs.Utf8.Recovery

/-!
# Strict coding

`encode` and `decode` have an answer for everything. Their strict counterparts refuse what a coding
does not provide for: a surrogate that carries no byte under `strayBytes`, and bytes that spell
nothing under `generalized`. So under `strayBytes` decoding never fails, and under `generalized` it
succeeds where the bytes are those of a text, which is then read back.
-/

set_option autoImplicit false

namespace UriTemplate.Utf8

/-- The bytes of a text, if the coding has some for each code point. -/
def encode? : Coding → Text → Option (List UInt8)
  | .strayBytes, text => if encodable text then some (encode .strayBytes text) else none
  | .generalized, text => some (encode .generalized text)

/-- The text of some bytes, if the coding has one. A byte that begins no well-formed sequence is
carried by a surrogate under `strayBytes`, and refused under `generalized`. -/
def decode? (coding : Coding) : List UInt8 → Option Text
  | [] => some []
  | lead :: rest =>
      match _read : decodePoint? coding (lead :: rest) with
      | some (point, after) => (decode? coding after).map (point :: ·)
      | none =>
          if coding = .strayBytes then (decode? coding rest).map (.ofStrayByte lead :: ·) else none
  termination_by bytes => bytes.length
  decreasing_by
    · exact length_lt_of_decodePoint? _read
    · simp

variable {coding : Coding} {bytes rest : List UInt8} {point : CodePoint} {text : Text}

/-- A text is written with stray bytes if that has bytes for it. -/
theorem codingOf_of_encodable (encoded : encodable text = true) : codingOf text = .strayBytes := by
  rw [codingOf, encoded, if_pos rfl]

/-- Any other text is written with the generalized coding. -/
theorem codingOf_of_lone (lone : encodable text = false) : codingOf text = .generalized := by
  rw [codingOf, lone, if_neg Bool.false_ne_true]

@[simp] theorem decode?_nil (coding : Coding) : decode? coding [] = some [] := by
  rw [decode?]

theorem decode?_of_some (read : decodePoint? coding bytes = some (point, rest)) :
    decode? coding bytes = (decode? coding rest).map (point :: ·) := by
  cases bytes with
  | nil => cases read
  | cons lead bytes =>
      rw [decode?]
      split
      next again =>
        rw [read] at again
        cases again
        rfl
      next missing =>
        rw [read] at missing
        cases missing

/-- What is decoded strictly is decoded. -/
theorem decode_of_decode? (decoded : decode? coding bytes = some text) :
    decode coding bytes = text := by
  fun_induction decode? coding bytes generalizing text with
  | case1 =>
      cases decoded
      exact decode_nil _
  | case2 lead rest point after read ih =>
      rcases Option.map_eq_some_iff.mp decoded with ⟨more, tail, rfl⟩
      rw [decode_of_some read, ih tail]
  | case3 lead rest stray _ ih =>
      rcases Option.map_eq_some_iff.mp decoded with ⟨more, tail, rfl⟩
      rw [decode_of_none stray, ih tail]
  | case4 => cases decoded

/-- Carried bytes leave nothing to refuse. -/
theorem decode?_strayBytes (bytes : List UInt8) :
    decode? .strayBytes bytes = some (decode .strayBytes bytes) := by
  fun_induction decode? .strayBytes bytes with
  | case1 => rw [decode_nil]
  | case2 lead rest point after read ih => rw [ih, decode_of_some read, Option.map_some]
  | case3 lead rest stray _ ih => rw [ih, decode_of_none stray, Option.map_some]
  | case4 _ _ _ refused => exact absurd rfl refused

/-- ASCII bytes are refused nowhere. -/
theorem decode?_of_ascii (coding : Coding) (ascii : ∀ byte ∈ bytes, byte.toNat < 0x80) :
    decode? coding bytes = some (bytes.map CodePoint.ofLatin) := by
  induction bytes with
  | nil => exact decode?_nil coding
  | cons byte rest ih =>
      have head := decodePoint?_of_ascii coding (ascii byte (by simp)) rest
      rw [decode?_of_some head, ih fun other member => ascii other (by simp [member])]
      rfl

/-! ## Shortest sequences are read -/

theorem continuations?_ofNat {count number bits : Nat} (bound : bits < 64) (rest : List UInt8) :
    continuations? (count + 1) number (UInt8.ofNat (0x80 + bits) :: rest) =
      continuations? count (number * 64 + bits) rest := by
  have toNat : (UInt8.ofNat (0x80 + bits)).toNat = 0x80 + bits :=
    UInt8.toNat_ofNat_of_lt (Nat.lt_trans (Nat.add_lt_add_left bound _) (by decide))
  have inside : 0x80 ≤ 0x80 + bits ∧ 0x80 + bits < 0xC0 := by omega
  rw [continuations?, continuation?, toNat, if_pos inside, Nat.add_sub_cancel_left,
    Option.bind_some]

theorem accept?_generalized {least : Nat} (enough : least ≤ point.toNat) :
    accept? .generalized least point.toNat = some point := by
  have found : CodePoint.ofNat? point.toNat = some point := by
    rw [CodePoint.ofNat?, dif_pos point.isLt]
  rw [accept?, if_pos enough, found]
  rfl

/-- A lead byte and what its sequence spells. -/
theorem decodePoint?_of_lead {byte : UInt8} {lead : Lead} (found : lead? byte = some lead)
    (continued : continuations? lead.count lead.high bytes = some (point.toNat, rest))
    (enough : lead.least ≤ point.toNat) :
    decodePoint? .generalized (byte :: bytes) = some (point, rest) := by
  simp only [decodePoint?, found, Option.bind_some, decodeTail?, continued,
    accept?_generalized enough, Option.map_some]

theorem lead?_two {high : Nat} (bound : high < 32) :
    lead? (UInt8.ofNat (0xC0 + high)) = some ⟨1, 0x80, high⟩ := by
  have every : ∀ high < 32, lead? (UInt8.ofNat (0xC0 + high)) = some ⟨1, 0x80, high⟩ := by decide
  exact every high bound

theorem lead?_three {high : Nat} (bound : high < 16) :
    lead? (UInt8.ofNat (0xE0 + high)) = some ⟨2, 0x800, high⟩ := by
  have every : ∀ high < 16, lead? (UInt8.ofNat (0xE0 + high)) = some ⟨2, 0x800, high⟩ := by decide
  exact every high bound

theorem lead?_four {high : Nat} (bound : high < 8) :
    lead? (UInt8.ofNat (0xF0 + high)) = some ⟨3, 0x10000, high⟩ := by
  have every : ∀ high < 8, lead? (UInt8.ofNat (0xF0 + high)) = some ⟨3, 0x10000, high⟩ := by decide
  exact every high bound

/-- The shortest sequence of a code point is read as that code point, whatever follows. -/
theorem decodePoint?_sequence (point : CodePoint) (rest : List UInt8) :
    decodePoint? .generalized (sequence point.toNat ++ rest) = some (point, rest) := by
  have bound := point.isLt
  have last : point.toNat % 64 < 64 := Nat.mod_lt _ (by decide)
  have middle : point.toNat / 64 % 64 < 64 := Nat.mod_lt _ (by decide)
  have second : point.toNat / 4096 % 64 < 64 := Nat.mod_lt _ (by decide)
  simp only [sequence]
  split
  next ascii =>
    have toNat : (UInt8.ofNat point.toNat).toNat = point.toNat :=
      UInt8.toNat_ofNat_of_lt (Nat.lt_trans ascii (by decide))
    have same : CodePoint.ofLatin (UInt8.ofNat point.toNat) = point := CodePoint.ext_toNat toNat
    rw [List.singleton_append, decodePoint?_of_ascii _ (by rwa [toNat]), same]
  split
  next short =>
    rw [List.cons_append, List.singleton_append]
    apply decodePoint?_of_lead (lead?_two (by omega)) _ (Nat.not_lt.mp ‹¬point.toNat < 0x80›)
    rw [continuations?_ofNat last, continuations?]
    congr 2
    dsimp only
    omega
  split
  next medium =>
    rw [List.cons_append, List.cons_append, List.singleton_append]
    apply decodePoint?_of_lead (lead?_three (by omega)) _ (Nat.not_lt.mp ‹¬point.toNat < 0x800›)
    rw [continuations?_ofNat middle, continuations?_ofNat last, continuations?]
    congr 2
    dsimp only
    omega
  next long =>
    rw [List.cons_append, List.cons_append, List.cons_append, List.singleton_append]
    apply decodePoint?_of_lead (lead?_four (by omega)) _ (Nat.not_lt.mp ‹¬point.toNat < 0x10000›)
    rw [continuations?_ofNat second, continuations?_ofNat middle, continuations?_ofNat last,
      continuations?]
    congr 2
    dsimp only
    omega

/-! ## Round trips -/

theorem encodePoint_generalized (point : CodePoint) :
    encodePoint .generalized point = sequence point.toNat := rfl

/-- Every text is read back from its generalized bytes. -/
theorem decode?_encode (text : Text) :
    decode? .generalized (encode .generalized text) = some text := by
  induction text with
  | nil => exact decode?_nil _
  | cons point text ih =>
      rw [encode_cons, encodePoint_generalized,
        decode?_of_some (decodePoint?_sequence point _), ih, Option.map_some]

/-- Texts with the same generalized bytes are the same. -/
theorem encode_generalized_injective {left right : Text}
    (same : encode .generalized left = encode .generalized right) : left = right := by
  have decoded := decode?_encode left
  rw [same, decode?_encode right] at decoded
  exact (Option.some.inj decoded).symm

/-- What is decoded strictly has the bytes that it was decoded from. -/
theorem encode_of_decode? (decoded : decode? coding bytes = some text) :
    encode coding text = bytes := by
  cases coding with
  | strayBytes =>
      rw [← decode_of_decode? decoded, encode_decode]
  | generalized =>
      fun_induction decode? .generalized bytes generalizing text with
      | case1 =>
          cases decoded
          rfl
      | case2 lead rest point after read ih =>
          rcases Option.map_eq_some_iff.mp decoded with ⟨more, tail, rfl⟩
          rw [encode_cons, ih tail, encodePoint_generalized, (eq_sequence_of_decodePoint? read).1]
      | case3 _ _ _ carried => cases carried
      | case4 => cases decoded

end UriTemplate.Utf8
