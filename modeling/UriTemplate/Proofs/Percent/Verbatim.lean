import UriTemplate.Proofs.Percent.Escaping
import UriTemplate.Proofs.Utf8.Shortest

/-!
# What escaping leaves as it is

Without the disallowed class a mask chooses ASCII characters only. All other code points should be
left as they are, but as soon as one character is replaced the whole text is taken apart into bytes
and put together again. That does not show in a text with a surrogate that carries no byte, for its
coding has other bytes for each code point. In any other text it shows exactly if carried bytes
spell a character side by side: they come back as that character.
-/

set_option autoImplicit false

namespace UriTemplate.Percent

open Utf8

/-- Whether a code point is an ASCII character of a class that a number contains. -/
def Chosen (number : Int) (point : CodePoint) : Prop :=
  point.toNat < 0x80 ∧ Mask.Contains number (.ofByte (UInt8.ofNat point.toNat))

instance (number : Int) (point : CodePoint) : Decidable (Chosen number point) :=
  inferInstanceAs (Decidable (_ ∧ _))

/-- A code point with the replacement of the chosen ones: a percent sign and two uppercase
digits. -/
def replacePoint (number : Int) (point : CodePoint) : Text :=
  if Chosen number point then
    ['%', hexDigit .upper (point.toNat / 16), hexDigit .upper point.toNat]
  else
    [point]

/-- The texts with carried bytes that come back as characters: some character is replaced, and so
the text is put together anew from its bytes, where it was not a decoded text. -/
structure Recombines (number : Int) (text : Text) : Prop where
  encodable : encodable text = true
  chosen : ∃ point ∈ text, Chosen number point
  changed : rejoin text ≠ text

variable {number : Int} {point : CodePoint} {text : Text} {bytes rest after : List UInt8}

/-! ## Bytes of replaced texts -/

/-- What is written for a byte, as a text. -/
theorem map_spelling_of_contains {byte : UInt8}
    (contains : Mask.Contains number (.ofByte byte)) :
    (spelling number byte).map CodePoint.ofLatin =
      (['%', highDigit byte, lowDigit byte] : Text) := by
  rw [spelling, if_pos contains, ← triplet_eq, map_triplet]

theorem toNat_ofNat_of_ascii (ascii : point.toNat < 0x80) :
    (UInt8.ofNat point.toNat).toNat = point.toNat :=
  UInt8.toNat_ofNat_of_lt (Nat.lt_trans ascii (by decide))

/-- The byte of an ASCII character is written in ASCII. -/
theorem ascii_of_mem_spelling (ascii : point.toNat < 0x80) :
    ∀ byte ∈ spelling number (UInt8.ofNat point.toNat), byte.toNat < 0x80 := by
  intro byte member
  rw [spelling, ← triplet_eq] at member
  split at member
  next => exact ascii_of_mem_triplet member
  next => rwa [List.mem_singleton.mp member, toNat_ofNat_of_ascii ascii]

/-- It is written as the character is replaced. -/
theorem map_spelling_of_ascii (ascii : point.toNat < 0x80) :
    (spelling number (UInt8.ofNat point.toNat)).map CodePoint.ofLatin =
      replacePoint number point := by
  by_cases contains : Mask.Contains number (.ofByte (UInt8.ofNat point.toNat))
  · rw [map_spelling_of_contains contains, replacePoint, if_pos ⟨ascii, contains⟩, highDigit,
      lowDigit, toNat_ofNat_of_ascii ascii]
  · have kept : ¬Chosen number point := fun chosen => contains chosen.2
    rw [spelling, if_neg contains, replacePoint, if_neg kept, List.map_singleton,
      CodePoint.ofLatin_ofNat (Nat.lt_trans ascii (by decide))]

/-- Bytes outside ASCII are of the disallowed class. -/
theorem spelling_of_high (lacks : ¬Mask.Contains number .disallowed) {byte : UInt8}
    (high : 0x80 ≤ byte.toNat) : spelling number byte = [byte] := by
  rw [spelling, ByteClass.ofByte_of_high high, if_neg lacks]

theorem flatMap_spelling_of_high (lacks : ¬Mask.Contains number .disallowed)
    (high : ∀ byte ∈ bytes, 0x80 ≤ byte.toNat) : bytes.flatMap (spelling number) = bytes := by
  induction bytes with
  | nil => rfl
  | cons byte rest ih =>
      rw [List.flatMap_cons, spelling_of_high lacks (high byte (by simp)),
        ih fun other member => high other (by simp [member])]
      rfl

theorem replacePoint_of_high (high : 0x80 ≤ point.toNat) : replacePoint number point = [point] := by
  rw [replacePoint, if_neg fun chosen => Nat.not_lt.mpr high chosen.1]

/-- The bytes of a code point are written as those of its replacement. -/
theorem encode_replacePoint (lacks : ¬Mask.Contains number .disallowed) (coding : Coding)
    (point : CodePoint) :
    encode coding (replacePoint number point) =
      (encodePoint coding point).flatMap (spelling number) := by
  by_cases ascii : point.toNat < 0x80
  · rw [encodePoint_of_ascii coding ascii, List.flatMap_singleton, ← map_spelling_of_ascii ascii,
      encode_map_ofLatin coding (ascii_of_mem_spelling ascii)]
  · have high : 0x80 ≤ point.toNat := Nat.not_lt.mp ascii
    rw [replacePoint_of_high high, encode_cons, encode_nil, List.append_nil,
      flatMap_spelling_of_high lacks (high_of_mem_encodePoint coding high)]

/-- The bytes of a text are written as those of the text with all replacements. -/
theorem encode_flatMap_replacePoint (lacks : ¬Mask.Contains number .disallowed)
    (coding : Coding) (text : Text) :
    encode coding (text.flatMap (replacePoint number)) =
      (encode coding text).flatMap (spelling number) := by
  induction text with
  | nil => rfl
  | cons point text ih =>
      rw [List.flatMap_cons, encode_append, encode_replacePoint lacks, ih, encode_cons,
        List.flatMap_append]

/-- A byte is replaced for each chosen character. -/
theorem exists_chosen_iff (lacks : ¬Mask.Contains number .disallowed) (coding : Coding) :
    (∃ point ∈ text, Chosen number point) ↔
      ∃ byte ∈ encode coding text, Mask.Contains number (.ofByte byte) := by
  constructor
  · rintro ⟨point, member, ascii, contains⟩
    refine ⟨UInt8.ofNat point.toNat, List.mem_flatMap.mpr ⟨point, member, ?_⟩, contains⟩
    rw [encodePoint_of_ascii coding ascii]
    exact List.mem_singleton_self _
  · rintro ⟨byte, member, contains⟩
    rcases List.mem_flatMap.mp member with ⟨point, inside, byteMember⟩
    by_cases ascii : point.toNat < 0x80
    · rw [encodePoint_of_ascii coding ascii, List.mem_singleton] at byteMember
      subst byteMember
      exact ⟨point, inside, ascii, contains⟩
    · have high := high_of_mem_encodePoint coding (Nat.not_lt.mp ascii) byte byteMember
      rw [ByteClass.ofByte_of_high high] at contains
      exact absurd contains lacks

/-! ## Decoding replaced bytes -/

/-- Bytes outside ASCII stand where they are in the replaced bytes were they stood before. -/
theorem isPrefix_of_flatMap_spelling {high : List UInt8}
    (isHigh : ∀ byte ∈ high, 0x80 ≤ byte.toNat)
    (split : bytes.flatMap (spelling number) = high ++ after) : high <+: bytes := by
  induction high generalizing bytes with
  | nil => exact List.nil_prefix
  | cons byte high ih =>
      cases bytes with
      | nil => cases split
      | cons first rest =>
          have byteHigh := isHigh byte (by simp)
          rw [List.flatMap_cons, spelling] at split
          split at split
          next =>
            rw [← (List.cons.inj split).1] at byteHigh
            exact absurd byteHigh (by decide)
          next =>
            rcases List.cons.inj split with ⟨rfl, rest⟩
            have tail := ih (fun other member => isHigh other (by simp [member])) rest
            exact (List.prefix_cons_inj first).mpr tail

/-- Replaced bytes are decoded as the text of the bytes before, replaced. The induction follows the
decoder: what it reads outside ASCII is as it was, and no bytes come together that were apart. -/
theorem decode_flatMap_spelling (lacks : ¬Mask.Contains number .disallowed)
    (bytes : List UInt8) :
    decode .strayBytes (bytes.flatMap (spelling number)) =
      (decode .strayBytes bytes).flatMap (replacePoint number) := by
  fun_induction decode .strayBytes bytes with
  | case1 => exact decode_nil _
  | case2 lead rest point after read ih =>
      rcases eq_sequence_of_decodePoint? read with ⟨whole, character⟩
      rw [whole, List.flatMap_append, List.flatMap_cons, ← ih]
      by_cases ascii : point.toNat < 0x80
      · rw [Utf8.sequence, if_pos ascii, List.flatMap_singleton,
          decode_append_of_ascii _ (ascii_of_mem_spelling ascii), map_spelling_of_ascii ascii]
      · have high : 0x80 ≤ point.toNat := Nat.not_lt.mp ascii
        rw [flatMap_spelling_of_high lacks (high_of_mem_sequence high point.isLt),
          replacePoint_of_high high,
          decode_of_some (decodePoint?_of_character (character rfl) _)]
        rfl
  | case3 lead rest stray ih =>
      have high := high_of_decodePoint?_eq_none stray
      have alone : decodePoint? .strayBytes (lead :: rest.flatMap (spelling number)) = none := by
        cases read : decodePoint? .strayBytes (lead :: rest.flatMap (spelling number)) with
        | none => rfl
        | some found =>
            rcases found with ⟨point, after⟩
            rcases eq_sequence_of_decodePoint? read with ⟨whole, character⟩
            have pointHigh : 0x80 ≤ point.toNat := by
              by_contra ascii
              rw [Utf8.sequence, if_pos (Nat.not_le.mp ascii), List.singleton_append,
                List.cons.injEq] at whole
              rw [whole.1, UInt8.toNat_ofNat'] at high
              omega
            have isHigh := high_of_mem_sequence pointHigh point.isLt
            have spelled : (lead :: rest).flatMap (spelling number) =
                Utf8.sequence point.toNat ++ after := by
              rw [List.flatMap_cons, spelling_of_high lacks high]
              exact whole
            rcases isPrefix_of_flatMap_spelling isHigh spelled with ⟨more, same⟩
            rw [← same, decodePoint?_of_character (character rfl)] at stray
            cases stray
      have leadHigh : 0x80 ≤ (CodePoint.ofStrayByte lead).toNat := by
        rw [CodePoint.toNat_ofStrayByte]
        omega
      rw [List.flatMap_cons, spelling_of_high lacks high, List.singleton_append,
        decode_of_none alone, ih, List.flatMap_cons, replacePoint_of_high leadHigh]
      rfl

/-! ## Replacing and escaping -/

/-- Where nothing is chosen, nothing is replaced. -/
theorem flatMap_replacePoint_of_clean (clean : ∀ point ∈ text, ¬Chosen number point) :
    text.flatMap (replacePoint number) = text := by
  induction text with
  | nil => rfl
  | cons point text ih =>
      rw [List.flatMap_cons, replacePoint, if_neg (clean point (by simp)),
        ih fun other member => clean other (by simp [member])]
      rfl

theorem length_replacePoint (lacks : ¬Mask.Contains number .disallowed) (point : CodePoint) :
    (replacePoint number point).length = 1 +
      2 * (encodePoint .strayBytes point).countP fun byte =>
        Mask.Contains number (.ofByte byte) := by
  by_cases ascii : point.toNat < 0x80
  · rw [encodePoint_of_ascii _ ascii, replacePoint]
    by_cases contains : Mask.Contains number (.ofByte (UInt8.ofNat point.toNat))
    · rw [if_pos ⟨ascii, contains⟩, List.countP_cons_of_pos (by simpa using contains)]
      rfl
    · have kept : ¬Chosen number point := fun chosen => contains chosen.2
      rw [if_neg kept, List.countP_cons_of_neg (by simpa using contains)]
      rfl
  · have high : 0x80 ≤ point.toNat := Nat.not_lt.mp ascii
    have none : (encodePoint .strayBytes point).countP
        (fun byte => Mask.Contains number (.ofByte byte)) = 0 := by
      rw [List.countP_eq_zero]
      intro byte member
      rw [ByteClass.ofByte_of_high (high_of_mem_encodePoint _ high byte member)]
      simpa using lacks
    rw [replacePoint_of_high high, none]
    rfl

/-- Each replacement makes a text longer by two. -/
theorem length_flatMap_replacePoint (lacks : ¬Mask.Contains number .disallowed) (text : Text) :
    (text.flatMap (replacePoint number)).length = text.length +
      2 * (encode .strayBytes text).countP fun byte => Mask.Contains number (.ofByte byte) := by
  induction text with
  | nil => rfl
  | cons point text ih =>
      rw [List.flatMap_cons, List.length_append, ih, length_replacePoint lacks, encode_cons,
        List.countP_append, List.length_cons]
      omega

/-- With a surrogate that carries no byte all code points keep their places. -/
theorem escape_of_not_encodable (lacks : ¬Mask.Contains number .disallowed)
    (lone : encodable text = false) :
    escape (.ofInt number) text = text.flatMap (replacePoint number) := by
  have bytes := encode_escape (.ofInt number) text
  rw [codingOf_of_lone lone, encodeBytes_ofInt, ← encode_flatMap_replacePoint lacks] at bytes
  exact encode_generalized_injective bytes

/-- Where nothing is chosen, a text is returned as it is. -/
theorem escape_of_not_chosen (lacks : ¬Mask.Contains number .disallowed)
    (clean : ∀ point ∈ text, ¬Chosen number point) : escape (.ofInt number) text = text := by
  rw [escape_eq_self_iff]
  intro byte member contains
  rcases (exists_chosen_iff lacks _).mpr ⟨byte, member, contains⟩ with ⟨point, inside, chosen⟩
  exact clean point inside chosen

/-- Where something is chosen, a text of characters and carried bytes is spelled anew. -/
theorem escape_of_chosen (lacks : ¬Mask.Contains number .disallowed)
    (encoded : encodable text = true) (chosen : ∃ point ∈ text, Chosen number point) :
    escape (.ofInt number) text = (rejoin text).flatMap (replacePoint number) := by
  have coding := codingOf_of_encodable encoded
  have unclean : isClean (.ofInt number) text = false := by
    rcases (exists_chosen_iff lacks .strayBytes).mp chosen with ⟨byte, member, contains⟩
    rw [isClean, coding, Bool.not_eq_false', List.any_eq_true]
    refine ⟨byte, member, ?_⟩
    rw [Mask.selects_ofInt]
    exact decide_eq_true contains
  simp only [escape, unclean, Bool.false_eq_true, if_false, coding]
  rw [encodeBytes_ofInt, decode_flatMap_spelling lacks, rejoin]

/-- A text that is shorter when it is spelled anew stays shorter with replacements. -/
theorem Recombines.ne (recombines : Recombines number text)
    (lacks : ¬Mask.Contains number .disallowed) :
    (rejoin text).flatMap (replacePoint number) ≠ text.flatMap (replacePoint number) := by
  intro same
  have lengths := congrArg List.length same
  have shorter := length_rejoin_lt recombines.encodable recombines.changed
  rw [length_flatMap_replacePoint lacks, length_flatMap_replacePoint lacks, rejoin,
    encode_decode, ← rejoin] at lengths
  omega

/-- Under a mask without the disallowed class escaping replaces the chosen ASCII characters and
leaves all other code points as they are, for every text but those whose carried bytes recombine.
These are spelled anew before the characters are replaced, and that is never the same. -/
theorem escape_eq_flatMap_iff (lacks : ¬Mask.Contains number .disallowed) (text : Text) :
    (escape (.ofInt number) text = text.flatMap (replacePoint number) ↔
        ¬Recombines number text) ∧
      (Recombines number text →
        escape (.ofInt number) text = (rejoin text).flatMap (replacePoint number)) := by
  have spelledAnew : Recombines number text →
      escape (.ofInt number) text = (rejoin text).flatMap (replacePoint number) := by
    intro recombines
    exact escape_of_chosen lacks recombines.encodable recombines.chosen
  refine ⟨⟨?_, ?_⟩, spelledAnew⟩
  · intro kept recombines
    exact recombines.ne lacks ((spelledAnew recombines).symm.trans kept)
  · intro whole
    cases encoded : encodable text with
    | false => exact escape_of_not_encodable lacks encoded
    | true =>
        by_cases chosen : ∃ point ∈ text, Chosen number point
        · have same : rejoin text = text := by
            by_contra changed
            exact whole ⟨encoded, chosen, changed⟩
          rw [escape_of_chosen lacks encoded chosen, same]
        · have clean : ∀ point ∈ text, ¬Chosen number point := by
            intro point member isChosen
            exact chosen ⟨point, member, isChosen⟩
          rw [escape_of_not_chosen lacks clean, flatMap_replacePoint_of_clean clean]

/-- Among other surrogates the bytes of a character stay apart. -/
theorem escape_eq_flatMap_iff_lone :
    ¬Mask.Contains 4 .disallowed ∧
      escape (.ofInt 4)
          [⟨0xD83D, by decide⟩, .ofStrayByte 0xC3, .ofStrayByte 0xA9, '/'] =
        ([⟨0xD83D, by decide⟩, .ofStrayByte 0xC3, .ofStrayByte 0xA9, '%', '2', 'F'] : Text) := by
  have lacks : ¬Mask.Contains 4 .disallowed := by decide
  refine ⟨lacks, ?_⟩
  rw [(escape_eq_flatMap_iff lacks _).1.mpr fun recombines =>
    absurd recombines.encodable (by decide)]
  decide

/-- Alone they come together when a letter behind them is replaced. -/
theorem escape_recombined :
    ¬Mask.Contains 2 .disallowed ∧
      escape (.ofInt 2) [.ofStrayByte 0xC3, .ofStrayByte 0xA9, 'a'] = "é%61" ∧
      ([.ofStrayByte 0xC3, .ofStrayByte 0xA9, 'a'] : Text).flatMap (replacePoint 2) =
        ([.ofStrayByte 0xC3, .ofStrayByte 0xA9, '%', '6', '1'] : Text) ∧
      escape (.ofInt 2) [.ofStrayByte 0xC3, .ofStrayByte 0xA9, 'a'] ≠
        ([.ofStrayByte 0xC3, .ofStrayByte 0xA9, 'a'] : Text).flatMap (replacePoint 2) := by
  decide +kernel

end UriTemplate.Percent
