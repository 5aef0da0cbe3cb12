import UriTemplate.Proofs.Utf8.Strict

/-!
# Shortest texts

A byte string may be that of several texts: where its bytes spell characters, they may also be
carried one by one. Decoding makes as many characters of them as it can, so the decoded text is the
shortest one, and every other text with these bytes is longer. A text that is spelled anew from its
bytes therefore stays as long as it is only if it does not change.
-/

set_option autoImplicit false

namespace UriTemplate.Utf8

variable {point : CodePoint} {bytes rest after tail : List UInt8} {text : Text}

/-! ## Characters among bytes -/

theorem accept?_of_not_surrogate {least number : Nat}
    (accepted : accept? .generalized least number = some point)
    (character : point.isSurrogate = false) : accept? .strayBytes least number = some point := by
  simp only [accept?] at accepted ⊢
  split at accepted
  next enough =>
    rcases Option.filter_eq_some_iff.mp accepted with ⟨found, _⟩
    rw [if_pos enough, found]
    simp [character]
  next => cases accepted

/-- Characters are read in the same way under both codings. -/
theorem decodePoint?_of_generalized
    (read : decodePoint? .generalized bytes = some (point, rest))
    (character : point.isSurrogate = false) :
    decodePoint? .strayBytes bytes = some (point, rest) := by
  cases bytes with
  | nil => cases read
  | cons byte bytes =>
      rcases Option.bind_eq_some_iff.mp read with ⟨lead, found, read⟩
      rcases Option.bind_eq_some_iff.mp read with ⟨⟨number, left⟩, continued, mapped⟩
      rcases Option.map_eq_some_iff.mp mapped with ⟨_, accepted, equal⟩
      cases equal
      simp only [decodePoint?, found, Option.bind_some, decodeTail?, continued,
        accept?_of_not_surrogate accepted character, Option.map_some]

/-- The shortest sequence of a character is read as that character. -/
theorem decodePoint?_of_character (character : point.isSurrogate = false)
    (rest : List UInt8) :
    decodePoint? .strayBytes (sequence point.toNat ++ rest) = some (point, rest) :=
  decodePoint?_of_generalized (decodePoint?_sequence point rest) character

/-! ## Continuation bytes -/

/-- The bytes that stand behind the first one of a sequence. -/
def IsContinuation (byte : UInt8) : Prop :=
  0x80 ≤ byte.toNat ∧ byte.toNat < 0xC0

theorem isContinuation_ofNat (number : Nat) :
    IsContinuation (UInt8.ofNat (0x80 + number % 64)) := by
  rw [IsContinuation, UInt8.toNat_ofNat']
  omega

theorem not_isContinuation_ofNat {number : Nat} (high : 0xC0 ≤ number) (bound : number < 0x100) :
    ¬IsContinuation (UInt8.ofNat number) := by
  rw [IsContinuation, UInt8.toNat_ofNat']
  omega

/-- A sequence is a byte that continues none, with continuation bytes behind it. -/
theorem exists_sequence_eq (point : CodePoint) :
    ∃ lead tail, sequence point.toNat = lead :: tail ∧ ¬IsContinuation lead ∧
      (∀ byte ∈ tail, IsContinuation byte) ∧ (0x80 ≤ lead.toNat → tail ≠ []) := by
  have bound := point.isLt
  simp only [sequence]
  split
  next =>
    refine ⟨_, _, rfl, ?_, by simp, ?_⟩
    · rw [IsContinuation, UInt8.toNat_ofNat']
      omega
    · rw [UInt8.toNat_ofNat']
      omega
  split
  next =>
    refine ⟨_, _, rfl, not_isContinuation_ofNat (by omega) (by omega), ?_, by simp⟩
    exact List.forall_mem_singleton.mpr (isContinuation_ofNat _)
  split
  next =>
    refine ⟨_, _, rfl, not_isContinuation_ofNat (by omega) (by omega), ?_, by simp⟩
    rw [List.forall_mem_cons, List.forall_mem_singleton]
    exact ⟨isContinuation_ofNat _, isContinuation_ofNat _⟩
  next =>
    refine ⟨_, _, rfl, not_isContinuation_ofNat (by omega) (by omega), ?_, by simp⟩
    rw [List.forall_mem_cons, List.forall_mem_cons, List.forall_mem_singleton]
    exact ⟨isContinuation_ofNat _, isContinuation_ofNat _, isContinuation_ofNat _⟩

/-! ## The first byte of a text -/

/-- A surrogate that can be encoded carries its byte. -/
theorem exists_ofStrayByte (surrogate : point.isSurrogate = true)
    (carries : point.isLoneSurrogate = false) :
    ∃ byte, point = .ofStrayByte byte ∧ 0x80 ≤ byte.toNat := by
  rw [CodePoint.isLoneSurrogate, surrogate, Bool.true_and] at carries
  simp only [CodePoint.strayByte?] at carries
  split at carries
  next inside =>
    have toNat : (UInt8.ofNat (point.toNat - 0xDC00)).toNat = point.toNat - 0xDC00 :=
      UInt8.toNat_ofNat_of_lt (show point.toNat - 0xDC00 < 256 by omega)
    refine ⟨UInt8.ofNat (point.toNat - 0xDC00), CodePoint.ext_toNat ?_, by omega⟩
    rw [CodePoint.toNat_ofStrayByte, toNat]
    omega
  next => cases carries

/-- What a text begins with if its bytes do with a given one: a character whose sequence begins with
it, or the surrogate that carries it. -/
inductive Opens (byte : UInt8) (bytes : List UInt8) : Text → Prop where
  | character {point : CodePoint} {text : Text} : point.isSurrogate = false →
      encodable text = true →
      sequence point.toNat ++ encode .strayBytes text = byte :: bytes →
      Opens byte bytes (point :: text)
  | stray {text : Text} : 0x80 ≤ byte.toNat → encodable text = true →
      encode .strayBytes text = bytes → Opens byte bytes (.ofStrayByte byte :: text)

theorem opens_of_encode {byte : UInt8} (encoded : encodable text = true)
    (same : encode .strayBytes text = byte :: bytes) : Opens byte bytes text := by
  cases text with
  | nil => cases same
  | cons point text =>
      rw [encodable, List.all_cons, Bool.and_eq_true, Bool.not_eq_true'] at encoded
      rcases encoded with ⟨carries, encoded⟩
      rw [encode_cons] at same
      cases surrogate : point.isSurrogate with
      | false =>
          rw [encodePoint_of_not_surrogate surrogate] at same
          exact .character surrogate encoded same
      | true =>
          rcases exists_ofStrayByte surrogate carries with ⟨carried, rfl, high⟩
          rw [encodePoint_ofStrayByte high, List.singleton_append, List.cons.injEq] at same
          rcases same with ⟨rfl, same⟩
          exact .stray high encoded same

/-- Continuation bytes are carried one by one where no sequence has begun before them. -/
theorem exists_of_continuation_append (encoded : encodable text = true)
    (continued : ∀ byte ∈ tail, IsContinuation byte)
    (same : encode .strayBytes text = tail ++ after) :
    ∃ rest, text = tail.map CodePoint.ofStrayByte ++ rest ∧ encodable rest = true ∧
      encode .strayBytes rest = after := by
  induction tail generalizing text with
  | nil => exact ⟨text, rfl, encoded, same⟩
  | cons byte tail ih =>
      cases opens_of_encode encoded same with
      | @character point text _ _ whole =>
          rcases exists_sequence_eq point with ⟨lead, more, equal, begins, _, _⟩
          rw [equal, List.cons_append, List.cons.injEq] at whole
          rw [whole.1] at begins
          exact absurd (continued byte (by simp)) begins
      | stray _ moreEncoded moreBytes =>
          have others : ∀ other ∈ tail, IsContinuation other := by
            intro other member
            exact continued other (by simp [member])
          rcases ih moreEncoded others moreBytes with ⟨rest, rfl, restEncoded, restBytes⟩
          exact ⟨rest, rfl, restEncoded, restBytes⟩

/-! ## Decoded texts are shortest -/

/-- Every text with given bytes is the decoded text or is longer than it. The induction follows the
decoder: where it reads a character, the other text has the same character or carries all of its
bytes. -/
theorem eq_or_length_lt_of_encode (encoded : encodable text = true)
    (same : encode .strayBytes text = bytes) :
    decode .strayBytes bytes = text ∨ (decode .strayBytes bytes).length < text.length := by
  fun_induction decode .strayBytes bytes generalizing text with
  | case1 => exact .inl (eq_nil_of_encode_eq_nil same).symm
  | case2 lead rest point after read ih =>
      cases opens_of_encode encoded same with
      | @character first more character moreEncoded whole =>
          have again := decodePoint?_of_character character (encode .strayBytes more)
          rw [whole, read] at again
          cases again
          rcases ih moreEncoded rfl with equal | shorter
          · exact .inl (congrArg _ equal)
          · exact .inr (Nat.succ_lt_succ shorter)
      | stray high moreEncoded moreBytes =>
          rcases eq_sequence_of_decodePoint? read with ⟨whole, _⟩
          rcases exists_sequence_eq point with ⟨head, tail, equal, _, continued, long⟩
          rw [equal, List.cons_append, List.cons.injEq] at whole
          rcases whole with ⟨rfl, rfl⟩
          rcases exists_of_continuation_append moreEncoded continued moreBytes with
            ⟨left, rfl, leftEncoded, leftBytes⟩
          have positive := List.length_pos_iff.mpr (long high)
          have longer : (decode .strayBytes after).length ≤ left.length := by
            rcases ih leftEncoded leftBytes with equal | shorter
            · exact Nat.le_of_eq (congrArg List.length equal)
            · exact Nat.le_of_lt shorter
          right
          simp only [List.length_cons, List.length_append, List.length_map]
          omega
  | case3 lead rest stray ih =>
      cases opens_of_encode encoded same with
      | @character first more character _ whole =>
          have found := decodePoint?_of_character character (encode .strayBytes more)
          rw [whole, stray] at found
          cases found
      | stray _ moreEncoded moreBytes =>
          rcases ih moreEncoded moreBytes with equal | shorter
          · exact .inl (congrArg _ equal)
          · exact .inr (Nat.succ_lt_succ shorter)

/-- Spelling a text anew from its bytes makes it shorter, unless it changes nothing. -/
theorem length_rejoin_lt (encoded : encodable text = true) (changed : rejoin text ≠ text) :
    (rejoin text).length < text.length :=
  (eq_or_length_lt_of_encode encoded rfl).resolve_left changed

end UriTemplate.Utf8
