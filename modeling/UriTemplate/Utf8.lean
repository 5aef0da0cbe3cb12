import UriTemplate.Text

/-!
# UTF-8 with surrogates

Texts hold surrogates, which UTF-8 proper has no bytes for, so there are two codings.
Under `strayBytes` a surrogate from U+DC80 to U+DCFF is the one byte that it carries,
and no other surrogate can be encoded; decoding is strict, and each byte outside a
well-formed sequence becomes the surrogate that carries it. Under `generalized` every
surrogate is encoded and decoded as the three-byte sequence of its number.
-/

set_option autoImplicit false

namespace UriTemplate.Utf8

/-- The two ways to write surrogates as bytes. -/
inductive Coding where
  | strayBytes
  | generalized
  deriving DecidableEq, Repr

/-- The shortest UTF-8 sequence that spells a number. -/
def sequence (number : Nat) : List UInt8 :=
  if number < 0x80 then
    [UInt8.ofNat number]
  else if number < 0x800 then
    [UInt8.ofNat (0xC0 + number / 64), UInt8.ofNat (0x80 + number % 64)]
  else if number < 0x10000 then
    [UInt8.ofNat (0xE0 + number / 4096), UInt8.ofNat (0x80 + number / 64 % 64),
      UInt8.ofNat (0x80 + number % 64)]
  else
    [UInt8.ofNat (0xF0 + number / 262144), UInt8.ofNat (0x80 + number / 4096 % 64),
      UInt8.ofNat (0x80 + number / 64 % 64), UInt8.ofNat (0x80 + number % 64)]

/-- The bytes of one code point. -/
def encodePoint (coding : Coding) (point : CodePoint) : List UInt8 :=
  match coding, point.strayByte? with
  | .strayBytes, some byte => [byte]
  | _, _ => sequence point.toNat

/-- The bytes of a text. Under `strayBytes` this is meant for texts that `encodable`
accepts. -/
def encode (coding : Coding) (text : Text) : List UInt8 :=
  text.flatMap (encodePoint coding)

@[simp] theorem encode_nil (coding : Coding) : encode coding [] = [] := rfl

@[simp] theorem encode_cons (coding : Coding) (point : CodePoint) (text : Text) :
    encode coding (point :: text) = encodePoint coding point ++ encode coding text := rfl

@[simp] theorem encode_append (coding : Coding) (left right : Text) :
    encode coding (left ++ right) = encode coding left ++ encode coding right := by
  simp [encode]

/-- Whether every surrogate of a text carries a byte. -/
def encodable (text : Text) : Bool :=
  text.all fun point => !point.isLoneSurrogate

/-- A text cut behind a number of bytes. A code point that the cut would go through is
replaced by U+FFFD. -/
def abridge : Nat → Text → Text
  | _, [] => []
  | room, point :: rest =>
      let size := (sequence point.toNat).length
      if size ≤ room then point :: abridge (room - size) rest
      else if room = 0 then []
      else ['\uFFFD']

/-- The coding of a text: `strayBytes` wherever it can be used. -/
def codingOf (text : Text) : Coding :=
  if encodable text then .strayBytes else .generalized

/-- The six bits of a continuation byte. -/
def continuation? (byte : UInt8) : Option Nat :=
  if 0x80 ≤ byte.toNat ∧ byte.toNat < 0xC0 then some (byte.toNat - 0x80) else none

/-- The code point that a sequence of a given length spells. `least` is the least number
that needs the length, so overlong sequences are refused. -/
def accept? (coding : Coding) (least number : Nat) : Option CodePoint :=
  if least ≤ number then
    (CodePoint.ofNat? number).filter fun point =>
      coding == .generalized || !point.isSurrogate
  else
    none

/-- Read a given number of continuation bytes and append their bits to `number`. -/
def continuations? : Nat → Nat → List UInt8 → Option (Nat × List UInt8)
  | 0, number, rest => some (number, rest)
  | count + 1, number, byte :: rest =>
      (continuation? byte).bind fun bits => continuations? count (number * 64 + bits) rest
  | _ + 1, _, [] => none

theorem length_le_of_continuations? {count number result : Nat} {bytes rest : List UInt8}
    (read : continuations? count number bytes = some (result, rest)) :
    rest.length ≤ bytes.length := by
  fun_induction continuations? count number bytes with
  | case1 => simp_all
  | case2 number count byte bytes ih =>
      obtain ⟨bits, _, read⟩ := Option.bind_eq_some_iff.mp read
      have := ih bits read
      simp only [List.length_cons]
      omega
  | case3 => cases read

/-- What a lead byte announces: the number of continuation bytes, the least number that
needs so many, and the first bits of the number. -/
structure Lead where
  count : Nat
  least : Nat
  high : Nat
  deriving DecidableEq, Repr

/-- The meaning of a byte as the first of a sequence. -/
def lead? (byte : UInt8) : Option Lead :=
  let value := byte.toNat
  if value < 0x80 then some ⟨0, 0, value⟩
  else if value < 0xC0 then none
  else if value < 0xE0 then some ⟨1, 0x80, value - 0xC0⟩
  else if value < 0xF0 then some ⟨2, 0x800, value - 0xE0⟩
  else if value < 0xF8 then some ⟨3, 0x10000, value - 0xF0⟩
  else none

/-- Read the bytes after a lead byte. -/
def decodeTail? (coding : Coding) (lead : Lead) (bytes : List UInt8) :
    Option (CodePoint × List UInt8) :=
  (continuations? lead.count lead.high bytes).bind fun (number, rest) =>
    (accept? coding lead.least number).map fun point => (point, rest)

/-- Read the code point that some bytes begin with, and return the bytes after it. -/
def decodePoint? (coding : Coding) : List UInt8 → Option (CodePoint × List UInt8)
  | [] => none
  | byte :: rest => (lead? byte).bind fun lead => decodeTail? coding lead rest

theorem length_le_of_decodeTail? {coding : Coding} {lead : Lead}
    {bytes rest : List UInt8} {point : CodePoint}
    (read : decodeTail? coding lead bytes = some (point, rest)) :
    rest.length ≤ bytes.length := by
  obtain ⟨⟨number, after⟩, continued, accepted⟩ := Option.bind_eq_some_iff.mp read
  obtain ⟨_, _, equal⟩ := Option.map_eq_some_iff.mp accepted
  cases equal
  exact length_le_of_continuations? continued

/-- Reading a code point uses up at least one byte. -/
theorem length_lt_of_decodePoint? {coding : Coding} {bytes rest : List UInt8}
    {point : CodePoint} (read : decodePoint? coding bytes = some (point, rest)) :
    rest.length < bytes.length := by
  cases bytes with
  | nil => cases read
  | cons byte bytes =>
      obtain ⟨lead, _, read⟩ := Option.bind_eq_some_iff.mp read
      exact Nat.lt_succ_of_le (length_le_of_decodeTail? read)

/-- The text of some bytes. A byte that begins no well-formed sequence is carried by a
surrogate. -/
def decode (coding : Coding) : List UInt8 → Text
  | [] => []
  | lead :: rest =>
      match _read : decodePoint? coding (lead :: rest) with
      | some (point, after) => point :: decode coding after
      | none => .ofStrayByte lead :: decode coding rest
  termination_by bytes => bytes.length
  decreasing_by
    · exact length_lt_of_decodePoint? _read
    · simp

@[simp] theorem decode_nil (coding : Coding) : decode coding [] = [] := by
  simp [decode]

theorem decode_of_some {coding : Coding} {bytes rest : List UInt8} {point : CodePoint}
    (read : decodePoint? coding bytes = some (point, rest)) :
    decode coding bytes = point :: decode coding rest := by
  cases bytes with
  | nil => cases read
  | cons lead bytes =>
      rw [decode]
      split
      next again =>
        rw [read] at again
        cases again
        rfl
      next missing =>
        rw [read] at missing
        cases missing

theorem decode_of_none {coding : Coding} {lead : UInt8} {rest : List UInt8}
    (stray : decodePoint? coding (lead :: rest) = none) :
    decode coding (lead :: rest) = .ofStrayByte lead :: decode coding rest := by
  rw [decode]
  split
  next found =>
    rw [stray] at found
    cases found
  next => rfl

/-- Spell a text anew from its bytes, so that carried bytes which together form
characters become those characters. -/
def rejoin (text : Text) : Text :=
  decode .strayBytes (encode .strayBytes text)

/-- The first stretch of a text that has no bytes: it begins at the first surrogate that
carries none and runs to the end of the surrogates there. -/
structure Unencodable where
  first : Nat
  count : Nat
  point : CodePoint
  deriving DecidableEq, Repr

/-- Find the first stretch without bytes, with offsets counted from `offset`. -/
def unencodableFrom? (offset : Nat) : Text → Option Unencodable
  | [] => none
  | point :: rest =>
      if point.isLoneSurrogate then
        some ⟨offset, 1 + (rest.takeWhile CodePoint.isSurrogate).length, point⟩
      else
        unencodableFrom? (offset + 1) rest

/-- The first stretch of a text that has no bytes, if it has one. -/
def unencodable? (text : Text) : Option Unencodable :=
  unencodableFrom? 0 text

theorem unencodableFrom?_eq_none_iff (offset : Nat) (text : Text) :
    unencodableFrom? offset text = none ↔ encodable text = true := by
  induction text generalizing offset with
  | nil => simp [unencodableFrom?, encodable]
  | cons point rest ih =>
      by_cases lone : point.isLoneSurrogate
      · simp [unencodableFrom?, encodable, lone]
      · simp only [Bool.not_eq_true] at lone
        simp [unencodableFrom?, lone, ih, encodable]

/-- A text has such a stretch exactly if it cannot be encoded. -/
theorem unencodable?_eq_none_iff (text : Text) :
    unencodable? text = none ↔ encodable text = true :=
  unencodableFrom?_eq_none_iff 0 text

end UriTemplate.Utf8
