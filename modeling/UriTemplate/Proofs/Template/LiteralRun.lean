import UriTemplate.Proofs.Template.Concatenation
import UriTemplate.Proofs.Utf8.Strict

/-!
# Runs of literal text

Outside expressions a template is cut into runs of literal text by its slashes and its expressions.
In a run characters and triplets may stand in any order; a character stands for all its bytes and a
triplet for one. Each run is one literal, with the text of all bytes of the run, whichever of them
were spelled as triplets. So the parts of a template do not depend on how its literal text is
spelled.

Braces occur in an accepted template only where an expression begins or ends. So a place is outside
expressions exactly if all braces before it are closed.
-/

set_option autoImplicit false

namespace UriTemplate

namespace Grammar

/-- A literal text spells bytes: each character its own ones, and each triplet the byte of its
digits. -/
inductive Spells : Text → List UInt8 → Prop where
  | nil : Spells [] []
  | point {point : CodePoint} {rest : Text} {bytes : List UInt8} : IsLiteral point →
      Spells rest bytes → Spells (point :: rest) (Utf8.encodePoint .strayBytes point ++ bytes)
  | triplet {high low : CodePoint} {byte : UInt8} {rest : Text} {bytes : List UInt8} :
      high.hexByte? low = some byte → Spells rest bytes →
      Spells ('%' :: high :: low :: rest) (byte :: bytes)

/-- No expression is open behind a text. -/
def Closed (text : Text) : Prop :=
  text.count ('\x7b' : CodePoint) = text.count ('\x7d' : CodePoint)

instance (text : Text) : Decidable (Closed text) :=
  inferInstanceAs (Decidable (_ = _))

/-- A template ends in front of a run: it is empty, or it has a slash or an expression there. -/
def EndsPart (text : Text) : Prop :=
  ∀ last ∈ text.getLast?, last = '/' ∨ last = '\x7d'

/-- A template begins behind a run: it is empty, or it has a slash or an expression there. -/
def BeginsPart (text : Text) : Prop :=
  ∀ first ∈ text.head?, first = '/' ∨ first = '\x7b'

/-- A maximal run of literal text that spells bytes, between two texts. It is outside expressions,
and it reaches from a slash, an expression or the beginning to a slash, an expression or the end. -/
structure LiteralRun (before run after : Text) (bytes : List UInt8) : Prop where
  nonempty : run ≠ []
  spells : Spells run bytes
  outside : Closed before
  before : EndsPart before
  after : BeginsPart after

/-- Two texts differ only in how literal text is spelled: they have the same slashes and
expressions, and between them they spell the same bytes. -/
inductive Respelled : Text → Text → Prop where
  | nil : Respelled [] []
  | literal {text other left right : Text} {bytes : List UInt8} : Spells text bytes →
      Spells other bytes → Respelled left right → Respelled (text ++ left) (other ++ right)
  | slash {left right : Text} : Respelled left right → Respelled ('/' :: left) ('/' :: right)
  | expression {text left right : Text} {body : Expression} : ExpressionText text body →
      Respelled left right → Respelled (text ++ left) (text ++ right)

variable {text before rest left right : Text} {bytes more : List UInt8} {piece : Piece}
  {pieces : List Piece}

/-! ## Spelled bytes -/

theorem Spells.append (first : Spells left bytes) (second : Spells right more) :
    Spells (left ++ right) (bytes ++ more) := by
  induction first with
  | nil => exact second
  | point literal _ ih =>
      rw [List.append_assoc]
      exact .point literal ih
  | triplet spelled _ ih => exact .triplet spelled ih

/-- Triplets spell their bytes with digits of either case. -/
theorem spells_triplets (letters : HexCase) (bytes : List UInt8) :
    Spells (bytes.flatMap fun byte =>
      ['%', hexDigit letters (byte.toNat / 16), hexDigit letters byte.toNat]) bytes := by
  induction bytes with
  | nil => exact .nil
  | cons byte bytes ih =>
      have bound := byte.toNat_lt
      have whole : byte.toNat / 16 % 16 * 16 + byte.toNat % 16 = byte.toNat := by omega
      refine .triplet ?_ ih
      rw [CodePoint.hexByte?, hexValue?_hexDigit_mod, hexValue?_hexDigit_mod, Option.bind_some,
        Option.map_some, whole, UInt8.ofNat_toNat]

/-- Only the empty text spells no bytes. -/
theorem Spells.eq_nil_iff (spelled : Spells text bytes) : text = [] ↔ bytes = [] := by
  cases spelled with
  | nil => exact iff_of_true rfl rfl
  | point =>
      refine iff_of_false (List.cons_ne_nil _ _) fun empty => ?_
      exact Utf8.encodePoint_ne_nil _ _ (List.append_eq_nil_iff.mp empty).1
  | triplet => exact iff_of_false (List.cons_ne_nil _ _) (List.cons_ne_nil _ _)

/-- Literal text is derived as literal pieces that have its bytes. -/
theorem Spells.exists_derives (spelled : Spells text bytes) :
    ∃ pieces, Derives text pieces ∧ (∀ piece ∈ pieces, piece.isLiteral = true) ∧
      pieces.flatMap Piece.bytes = bytes := by
  induction spelled with
  | nil => exact ⟨[], .nil, by simp, rfl⟩
  | @point point rest bytes literal _ ih =>
      rcases ih with ⟨pieces, derived, literals, rfl⟩
      refine ⟨.literal (Utf8.encodePoint .strayBytes point) :: pieces,
        .cons (.point literal) derived, ?_, rfl⟩
      exact List.forall_mem_cons.mpr ⟨rfl, literals⟩
  | @triplet high low byte rest bytes digits _ ih =>
      rcases ih with ⟨pieces, derived, literals, rfl⟩
      refine ⟨.literal [byte] :: pieces, .cons (.triplet digits) derived, ?_, rfl⟩
      exact List.forall_mem_cons.mpr ⟨rfl, literals⟩

/-! ## Braces -/

/-- A text without braces. -/
def Unbraced (text : Text) : Prop :=
  ∀ point ∈ text, point ≠ '\x7b' ∧ point ≠ '\x7d'

instance (text : Text) : Decidable (Unbraced text) :=
  inferInstanceAs (Decidable (∀ _ ∈ text, _))

theorem unbraced_nil : Unbraced [] :=
  List.forall_mem_nil _

theorem Unbraced.append (first : Unbraced left) (second : Unbraced right) :
    Unbraced (left ++ right) :=
  List.forall_mem_append.mpr ⟨first, second⟩

theorem Unbraced.cons {point : CodePoint} (unbraced : Unbraced text)
    (other : point ≠ '\x7b' ∧ point ≠ '\x7d') : Unbraced (point :: text) :=
  List.forall_mem_cons.mpr ⟨other, unbraced⟩

theorem Unbraced.count_open (unbraced : Unbraced text) : text.count ('\x7b' : CodePoint) = 0 :=
  List.count_eq_zero.mpr fun member => (unbraced _ member).1 rfl

theorem Unbraced.count_close (unbraced : Unbraced text) : text.count ('\x7d' : CodePoint) = 0 :=
  List.count_eq_zero.mpr fun member => (unbraced _ member).2 rfl

theorem Unbraced.closed (unbraced : Unbraced text) : Closed text :=
  unbraced.count_open.trans unbraced.count_close.symm

theorem IsName.unbraced (isName : IsName text) : Unbraced text := by
  intro point member
  have names := isName.2 point member
  exact ⟨Lexer.ne_of_isNameChar names (by decide), Lexer.ne_of_isNameChar names (by decide)⟩

theorem PathText.unbraced {path : List Text} (derived : PathText text path) : Unbraced text := by
  induction derived with
  | single isName => exact isName.unbraced
  | dot isName _ ih => exact isName.unbraced.append (ih.cons (by decide))

theorem IsLength.unbraced (isLength : IsLength text) : Unbraced text := by
  intro point member
  have digit := isLength.2.2 point member
  constructor
  · rintro rfl
    exact absurd digit (by decide)
  · rintro rfl
    exact absurd digit (by decide)

theorem ModifierText.unbraced {modifier : Option Modifier} (derived : ModifierText text modifier) :
    Unbraced text := by
  cases derived with
  | none => exact unbraced_nil
  | explode => exact unbraced_nil.cons (by decide)
  | maxLength isLength _ => exact isLength.unbraced.cons (by decide)

theorem VariableText.unbraced {var : Variable} (derived : VariableText text var) :
    Unbraced text := by
  cases derived with
  | mk path modifier => exact path.unbraced.append modifier.unbraced

theorem VariablesText.unbraced {vars : List Variable} (derived : VariablesText text vars) :
    Unbraced text := by
  induction derived with
  | single var => exact var.unbraced
  | comma var _ ih => exact var.unbraced.append (ih.cons (by decide))

theorem unbraced_symbol (operator : Operator) : Unbraced operator.symbol := by
  cases operator <;> decide

/-- An expression has braces only at its ends. -/
theorem ExpressionText.exists_unbraced {body : Expression} (derived : ExpressionText text body) :
    ∃ inner, text = ('\x7b' : CodePoint) :: (inner ++ (['\x7d'] : Text)) ∧ Unbraced inner := by
  cases derived with
  | @mk vars _ listed =>
      refine ⟨body.operator.symbol ++ vars, ?_, (unbraced_symbol _).append listed.unbraced⟩
      rw [List.cons_append, List.append_assoc]

theorem IsLiteral.ne {point : CodePoint} (literal : IsLiteral point) {char : Char}
    (excludes : CodePoint.ofChar char ∈ excluded) : point ≠ char := by
  rintro rfl
  exact literal.2.1 excludes

theorem IsLiteral.unbraced {point : CodePoint} (literal : IsLiteral point) : Unbraced [point] :=
  unbraced_nil.cons ⟨literal.ne (by decide), literal.ne (by decide)⟩

/-- The digits of a triplet have values. -/
theorem hexValue?_of_hexByte? {high low : CodePoint} {byte : UInt8}
    (digits : high.hexByte? low = some byte) :
    high.hexValue? ≠ none ∧ low.hexValue? ≠ none := by
  rcases Option.bind_eq_some_iff.mp digits with ⟨highValue, highRead, digits⟩
  rcases Option.map_eq_some_iff.mp digits with ⟨lowValue, lowRead, _⟩
  rw [highRead, lowRead]
  exact ⟨Option.some_ne_none _, Option.some_ne_none _⟩

theorem ne_of_hexValue? {point : CodePoint} (digit : point.hexValue? ≠ none) {char : Char}
    (noDigit : (CodePoint.ofChar char).hexValue? = none) : point ≠ char := by
  rintro rfl
  exact digit noDigit

/-- No part ends with a digit. -/
theorem not_endsPart_of_hexValue? (text : Text) {digit : CodePoint}
    (value : digit.hexValue? ≠ none) : ¬EndsPart (text ++ [digit]) := by
  intro ends
  rcases ends digit (by rw [List.getLast?_concat, Option.mem_some_iff]) with slash | brace
  · exact absurd slash (ne_of_hexValue? value (by decide))
  · exact absurd brace (ne_of_hexValue? value (by decide))

theorem unbraced_triplet {high low : CodePoint} {byte : UInt8}
    (digits : high.hexByte? low = some byte) : Unbraced ['%', high, low] := by
  rcases hexValue?_of_hexByte? digits with ⟨highDigit, lowDigit⟩
  have lowUnbraced : Unbraced [low] := unbraced_nil.cons
    ⟨ne_of_hexValue? lowDigit (by decide), ne_of_hexValue? lowDigit (by decide)⟩
  have unbraced : Unbraced [high, low] := lowUnbraced.cons
    ⟨ne_of_hexValue? highDigit (by decide), ne_of_hexValue? highDigit (by decide)⟩
  exact unbraced.cons (by decide)

theorem closed_append (first : Closed left) : Closed (left ++ right) ↔ Closed right := by
  rw [Closed] at first
  rw [Closed, Closed, List.count_append, List.count_append, first, Nat.add_left_cancel_iff]

/-- Behind a piece no expression is open. -/
theorem PieceText.closed (derived : PieceText text piece) : Closed text := by
  cases derived with
  | point literal => exact literal.unbraced.closed
  | triplet digits => exact (unbraced_triplet digits).closed
  | slash => decide
  | expression body =>
      rcases body.exists_unbraced with ⟨inner, rfl, unbraced⟩
      rw [Closed, List.count_cons, List.count_cons, List.count_append, List.count_append,
        unbraced.count_open, unbraced.count_close]
      decide

/-- Behind a derived text no expression is open. -/
theorem Derivable.closed (derivable : Derivable text) : Closed text := by
  rcases derivable with ⟨pieces, derived⟩
  induction derived with
  | nil => exact unbraced_nil.closed
  | cons pieceDerived _ ih => exact (closed_append pieceDerived.closed).mpr ih

/-- Inside an expression its first brace is open. -/
theorem not_closed_of_open {inner : Text} (unbraced : Unbraced inner) :
    ¬Closed (('\x7b' : CodePoint) :: inner) := by
  rw [Closed, List.count_cons, List.count_cons, unbraced.count_open, unbraced.count_close]
  decide

/-- A part does not end inside a triplet. -/
theorem eq_nil_of_triplet {high low : CodePoint} {byte : UInt8}
    (digits : high.hexByte? low = some byte)
    (whole : (['%', high, low] : Text) = before ++ rest) (ends : EndsPart before) :
    before = [] ∨ rest = [] := by
  have highDigit := (hexValue?_of_hexByte? digits).1
  match before, whole with
  | [], _ => exact .inl rfl
  | [mark], split =>
      rw [← (List.cons.inj split).1] at ends
      exact absurd (ends _ rfl) (by decide)
  | [mark, first], split =>
      rw [← (List.cons.inj (List.cons.inj split).2).1] at ends
      exact absurd ends (not_endsPart_of_hexValue? [mark] highDigit)
  | mark :: first :: second :: before, split =>
      have lengths := congrArg List.length split
      simp only [List.length_cons, List.length_append, List.length_nil] at lengths
      exact .inr (List.length_eq_zero_iff.mp (by omega))

/-- A place outside expressions is not inside one. -/
theorem eq_nil_of_expression {body : Expression} (derived : ExpressionText (before ++ rest) body)
    (closed : Closed before) : before = [] ∨ rest = [] := by
  rcases derived.exists_unbraced with ⟨inner, whole, unbraced⟩
  cases before with
  | nil => exact .inl rfl
  | cons brace before =>
      rw [List.cons_append, List.cons.injEq] at whole
      rcases whole with ⟨rfl, whole⟩
      rcases List.append_eq_append_iff.mp whole with ⟨more, rfl, _⟩ | ⟨more, rfl, single⟩
      · have shorter : Unbraced before := fun point member =>
          unbraced point (List.mem_append_left _ member)
        exact absurd closed (not_closed_of_open shorter)
      · rcases List.singleton_eq_append_iff.mp single with ⟨rfl, _⟩ | ⟨_, empty⟩
        · rw [List.append_nil] at closed
          exact absurd closed (not_closed_of_open unbraced)
        · exact .inr empty

/-- A part that ends outside expressions does not end inside a piece. -/
theorem PieceText.eq_nil_of_endsPart (derived : PieceText text piece)
    (whole : text = before ++ rest) (closed : Closed before) (ends : EndsPart before) :
    before = [] ∨ rest = [] := by
  cases derived with
  | point => exact (List.singleton_eq_append_iff.mp whole).imp And.left And.right
  | slash => exact (List.singleton_eq_append_iff.mp whole).imp And.left And.right
  | triplet digits => exact eq_nil_of_triplet digits whole ends
  | expression body =>
      subst whole
      exact eq_nil_of_expression body closed

theorem EndsPart.of_append (ends : EndsPart (left ++ right)) : EndsPart right := by
  intro last isLast
  apply ends
  rw [List.getLast?_append, Option.mem_def.mp isLast]
  rfl

/-- A derived text can be cut where a part ends outside expressions, by induction on the
derivation. -/
theorem Derives.derivable_of_endsPart (derived : Derives text pieces)
    (whole : text = before ++ rest) (closed : Closed before) (ends : EndsPart before) :
    Derivable before ∧ Derivable rest := by
  induction derived generalizing before with
  | nil =>
      rcases List.append_eq_nil_iff.mp whole.symm with ⟨rfl, rfl⟩
      exact ⟨⟨[], .nil⟩, ⟨[], .nil⟩⟩
  | @cons first after piece pieces pieceDerived derived ih =>
      rcases List.append_eq_append_iff.mp whole with ⟨more, rfl, rest⟩ | ⟨more, rfl, rest⟩
      -- The cut is behind the first piece.
      · have further := ih rest ((closed_append pieceDerived.closed).mp closed) ends.of_append
        exact ⟨pieceDerived.derivable.append further.1, further.2⟩
      -- The cut is not behind the first piece, so it is at one of its ends.
      · rcases pieceDerived.eq_nil_of_endsPart rfl closed ends with rfl | rfl
        · rw [List.nil_append] at pieceDerived
          rw [rest]
          exact ⟨⟨[], .nil⟩, pieceDerived.derivable.append ⟨pieces, derived⟩⟩
        · rw [List.append_nil] at pieceDerived
          rw [rest]
          exact ⟨pieceDerived.derivable, ⟨pieces, derived⟩⟩

theorem Piece.joins_comm (left right : Piece) : joins left right = joins right left := by
  cases left <;> cases right <;> rfl

/-- A text that ends a part does not end with a literal piece. -/
theorem PieceText.not_isLiteral (derived : PieceText text piece) (ends : EndsPart text) :
    piece.isLiteral = false := by
  cases derived with
  | point literal =>
      rcases ends _ rfl with slash | brace
      · exact absurd slash (literal.ne (by decide))
      · exact absurd brace (literal.ne (by decide))
  | triplet digits =>
      have lowDigit := (hexValue?_of_hexByte? digits).2
      exact absurd ends (not_endsPart_of_hexValue? ['%', _] lowDigit)
  | slash => rfl
  | expression => rfl

theorem Derives.not_isLiteral_getLast? (derived : Derives text pieces) (ends : EndsPart text) :
    ∀ last ∈ pieces.getLast?, last.isLiteral = false := by
  induction derived with
  | nil => exact fun _ isLast => absurd isLast (Option.not_mem_none _)
  | @cons first after piece pieces pieceDerived derived ih =>
      cases derived with
      | nil =>
          intro last isLast
          cases isLast
          rw [List.append_nil] at ends
          exact pieceDerived.not_isLiteral ends
      | cons =>
          rw [List.getLast?_cons_cons]
          exact ih ends.of_append

/-- A text that begins a part does not begin with a literal piece. -/
theorem Derives.not_isLiteral_head? (derived : Derives text pieces) (begins : BeginsPart text) :
    ∀ first ∈ pieces.head?, first.isLiteral = false := by
  intro first isFirst
  cases derived with
  | nil => cases isFirst
  | cons pieceDerived _ =>
      cases isFirst
      cases pieceDerived with
      | point literal =>
          rcases begins _ rfl with slash | brace
          · exact absurd slash (literal.ne (by decide))
          · exact absurd brace (literal.ne (by decide))
      | triplet => exact absurd (begins _ rfl) (by decide)
      | slash => rfl
      | expression => rfl

end Grammar

open Grammar

namespace Template

variable {before run after left right text : Text} {bytes : List UInt8} {template first : Template}

/-- What an accepted template has behind another one is accepted, and follows it. -/
theorem exists_parse_of_append (parsed : parse left = .ok first)
    (whole : parse (left ++ right) = .ok template) :
    ∃ second, parse right = .ok second ∧ template = first.append second := by
  cases alone : parse right with
  | error failure =>
      rw [parse_append_of_error parsed alone] at whole
      cases whole
  | ok second =>
      rw [parse_append_of_ok parsed alone] at whole
      exact ⟨second, rfl, (Except.ok.inj whole).symm⟩

/-- Literal text is one literal with the text of its bytes, if there are some. -/
theorem parse_of_spells (spelled : Spells text bytes) :
    parse text = .ok ⟨Reader.withLiteral [] bytes⟩ := by
  rcases spelled.exists_derives with ⟨pieces, derived, literals, whole⟩
  rw [Reader.withLiteral]
  split_ifs with empty
  · rw [spelled.eq_nil_iff.mpr empty]
    exact parse_of_derives .nil
  · have nonempty : pieces ≠ [] := by
      rintro rfl
      exact empty whole.symm
    rw [parse_of_derives derived, Piece.parts_literals nonempty literals, whole]
    rfl

/-- A maximal run of literal text is one literal between what is before and what is behind it. -/
theorem parts_of_literalRun (isRun : LiteralRun before run after bytes)
    (parsed : parse (before ++ run ++ after) = .ok template) :
    ∃ first second, parse before = .ok first ∧ parse after = .ok second ∧
      template.parts = first.parts ++ .literal (Utf8.decode .strayBytes bytes) :: second.parts := by
  rcases derivable_of_parse parsed with ⟨pieces, derived⟩
  rw [List.append_assoc] at derived parsed
  rcases derived.derivable_of_endsPart rfl isRun.outside isRun.before with
    ⟨⟨leading, beforeDerived⟩, further, furtherDerived⟩
  rcases isRun.spells.exists_derives with ⟨literals, runDerived, areLiteral, rfl⟩
  rcases exists_parse_of_append (parse_of_derives runDerived) (parse_of_derives furtherDerived)
    with ⟨second, afterParsed, _⟩
  rcases (parse_eq_ok_iff_derives _ _).mp afterParsed with ⟨trailing, afterDerived, rfl⟩
  have nonempty : literals ≠ [] := by
    rintro rfl
    cases runDerived
    exact isRun.nonempty rfl
  refine ⟨⟨Piece.parts leading⟩, ⟨Piece.parts trailing⟩, parse_of_derives beforeDerived,
    afterParsed, ?_⟩
  rw [parse_of_derives (beforeDerived.append (runDerived.append afterDerived))] at parsed
  cases parsed
  have apartBefore : ∀ last ∈ leading.getLast?, ∀ piece ∈ (literals ++ trailing).head?,
      Piece.joins last piece = false := by
    intro last isLast piece isFirst
    rw [List.head?_append_of_ne_nil _ nonempty] at isFirst
    exact Piece.joins_eq_false (beforeDerived.not_isLiteral_getLast? isRun.before last isLast)
      (areLiteral piece (List.mem_of_mem_head? isFirst))
  have apartAfter : ∀ last ∈ literals.getLast?, ∀ piece ∈ trailing.head?,
      Piece.joins last piece = false := by
    intro last isLast piece isFirst
    rw [Piece.joins_comm]
    exact Piece.joins_eq_false (afterDerived.not_isLiteral_head? isRun.after piece isFirst)
      (areLiteral last (List.mem_of_mem_getLast? isLast))
  show Piece.parts (leading ++ (literals ++ trailing)) = _
  rw [Piece.parts_append apartBefore, Piece.parts_append apartAfter,
    Piece.parts_literals nonempty areLiteral]
  rfl

/-- Texts that differ only in the spelling of literal text are the same template. -/
theorem exists_parse_of_respelled (respelled : Respelled left right) :
    ∃ template, parse left = .ok template ∧ parse right = .ok template := by
  induction respelled with
  | nil => exact ⟨_, parse_of_derives .nil, parse_of_derives .nil⟩
  | literal spelled other _ ih =>
      rcases ih with ⟨template, leftParsed, rightParsed⟩
      exact ⟨_, parse_append_of_ok (parse_of_spells spelled) leftParsed,
        parse_append_of_ok (parse_of_spells other) rightParsed⟩
  | slash _ ih =>
      rcases ih with ⟨template, leftParsed, rightParsed⟩
      have parsed := parse_of_derives PieceText.slash.derives
      exact ⟨_, parse_append_of_ok parsed leftParsed, parse_append_of_ok parsed rightParsed⟩
  | expression derived _ ih =>
      rcases ih with ⟨template, leftParsed, rightParsed⟩
      have parsed := parse_of_derives (PieceText.expression derived).derives
      exact ⟨_, parse_append_of_ok parsed leftParsed, parse_append_of_ok parsed rightParsed⟩

/-- Literals are exact to the byte. In an accepted template each maximal run of literal text is one
literal, between the parts of what is before it and of what is behind it; its bytes are those that
the run spells, and its text is the decoding of these. So texts that differ only in the spelling of
literal text are accepted as the same template. -/
theorem literals_exact :
    (∀ before run after bytes template, LiteralRun before run after bytes →
      parse (before ++ run ++ after) = .ok template →
      ∃ first second literal, parse before = .ok first ∧ parse after = .ok second ∧
        template.parts = first.parts ++ .literal literal :: second.parts ∧
        Utf8.encode? .strayBytes literal = some bytes ∧
        literal = Utf8.decode .strayBytes bytes) ∧
    ∀ left right, Respelled left right →
      ∃ template, parse left = .ok template ∧ parse right = .ok template := by
  refine ⟨?_, fun left right => exists_parse_of_respelled⟩
  intro before run after bytes template isRun parsed
  rcases parts_of_literalRun isRun parsed with ⟨first, second, beforeParsed, afterParsed, parts⟩
  refine ⟨first, second, _, beforeParsed, afterParsed, parts, ?_, rfl⟩
  rw [Utf8.encode?, if_pos (Utf8.encodable_decode bytes), Utf8.encode_decode]

/-- A character is put together from a carried byte and a triplet, and it is the same template as
with triplets of either case. -/
theorem literals_exact_mixed :
    LiteralRun "/" ['c', .ofStrayByte 0xC3, '%', 'A', '9'] "\x7bx\x7d" [0x63, 0xC3, 0xA9] ∧
      (∃ template first second,
        parse ['/', 'c', .ofStrayByte 0xC3, '%', 'A', '9', '\x7b', 'x', '\x7d'] = .ok template ∧
        parse "/" = .ok first ∧ parse "\x7bx\x7d" = .ok second ∧
        template.parts = first.parts ++ .literal "cé" :: second.parts) ∧
      ∃ template, parse "é/" = .ok template ∧ parse "%c3%A9/" = .ok template := by
  have isRun : LiteralRun "/" ['c', .ofStrayByte 0xC3, '%', 'A', '9'] "\x7bx\x7d"
      [0x63, 0xC3, 0xA9] := by
    refine ⟨by decide, ?_, by decide, fun _ isLast => ?_, fun _ isFirst => ?_⟩
    · exact .point (isLiteral_iff.mpr (by decide)) (.point (isLiteral_iff.mpr (by decide))
        (.triplet (by decide) .nil))
    · cases isLast
      decide
    · cases isFirst
      decide
  have parsed : parse ['/', 'c', .ofStrayByte 0xC3, '%', 'A', '9', '\x7b', 'x', '\x7d'] =
      .ok ⟨[.separator, .literal "cé",
        .expression ⟨.simple, [⟨["x"], none, by simp⟩], by simp⟩]⟩ := by
    rw [parse_eq_read]
    decide +kernel
  have respelled : Respelled ("é" ++ ('/' :: [] : Text)) ("%c3%A9" ++ ('/' :: [] : Text)) := by
    refine @Respelled.literal _ _ _ _ [0xC3, 0xA9] ?_ ?_ (.slash .nil)
    · exact .point (isLiteral_iff.mpr (by decide)) .nil
    · exact (spells_triplets .lower [0xC3]).append (spells_triplets .upper [0xA9])
  rcases literals_exact.1 _ _ _ _ _ isRun parsed with
    ⟨first, second, literal, beforeParsed, afterParsed, parts, _, decoded⟩
  have text : Utf8.decode .strayBytes [0x63, 0xC3, 0xA9] = "cé" := by decide +kernel
  rw [decoded, text] at parts
  exact ⟨isRun, ⟨_, first, second, parsed, beforeParsed, afterParsed, parts⟩,
    literals_exact.2 _ _ respelled⟩

end Template

end UriTemplate
