import UriTemplate.Proofs.Template.Canonical

/-!
# Printing and parsing

A canonical template is printed as a text that the grammar derives, piece by piece: a literal as
one piece for each of its bytes, a separator as a slash, and an expression as itself. The parts
of these pieces are the parts of the template. So parsing undoes printing on canonical templates,
and on no others, since the parser returns canonical templates only.
-/

set_option autoImplicit false

namespace UriTemplate

open Grammar

/-! ## Literals -/

/-- What the mask of literals leaves as it is can stand for itself, but for the slash and the
quote. -/
theorem isLiteral_of_not_selects {byte : UInt8} :
    Mask.disallowedOnly.selects byte = false → CodePoint.ofLatin byte ≠ '/' →
      CodePoint.ofLatin byte ≠ '\'' → (CodePoint.ofLatin byte).isLiteral = true := by
  revert byte
  apply forall_byte
  decide +kernel

theorem printLiteralPoint_of_isHexDigit {point : CodePoint} {value : Nat}
    (digit : point.hexValue? = some value) : Part.printLiteralPoint point = [point] := by
  have slash : point ≠ '/' := by
    intro equal
    subst equal
    cases digit
  have quote : point ≠ '\'' := by
    intro equal
    subst equal
    cases digit
  rw [Part.printLiteralPoint, if_neg slash, if_neg quote]

/-- A byte of a literal is written as a triplet or as the character that it is. -/
theorem pieceText_byte (byte : UInt8) :
    PieceText (((if Mask.disallowedOnly.selects byte then Percent.triplet byte else [byte]).map
      CodePoint.ofLatin).flatMap Part.printLiteralPoint) (.literal [byte]) := by
  cases selected : Mask.disallowedOnly.selects byte with
  | true =>
      have percent : Part.printLiteralPoint '%' = ['%'] := rfl
      have high := printLiteralPoint_of_isHexDigit (hexValue?_hexDigit_mod .upper (byte.toNat / 16))
      have low := printLiteralPoint_of_isHexDigit (hexValue?_hexDigit_mod .upper byte.toNat)
      rw [if_pos rfl, Percent.map_triplet, List.flatMap_cons, List.flatMap_cons,
        List.flatMap_singleton, percent, Percent.highDigit, high, Percent.lowDigit, low]
      exact .triplet (Percent.hexByte?_digits byte)
  | false =>
      rw [if_neg Bool.false_ne_true, List.map_singleton, List.flatMap_singleton,
        Part.printLiteralPoint]
      split
      next slash =>
        have same : byte = 0x2F := CodePoint.ofLatin_injective slash
        rw [same]
        exact .triplet rfl
      split
      next quote =>
        have same : byte = 0x27 := CodePoint.ofLatin_injective quote
        rw [same]
        exact .triplet rfl
      next slash quote =>
        have legal := isLiteral_iff.mpr (isLiteral_of_not_selects selected slash quote)
        have derived := PieceText.point legal
        have ascii := Mask.ascii_of_not_selects rfl selected
        rw [Utf8.encodePoint_of_ascii _ ascii, CodePoint.toNat_ofLatin, UInt8.ofNat_toNat]
          at derived
        exact derived

namespace Grammar.Piece

/-- The pieces for bytes, one for each. -/
def ofBytes (bytes : List UInt8) : List Piece :=
  bytes.map fun byte => literal [byte]

theorem isLiteral_of_mem_ofBytes {bytes : List UInt8} {piece : Piece}
    (member : piece ∈ ofBytes bytes) : piece.isLiteral = true := by
  rcases List.mem_map.mp member with ⟨byte, _, rfl⟩
  rfl

theorem flatMap_ofBytes (text : List UInt8) : (ofBytes text).flatMap bytes = text := by
  induction text with
  | nil => rfl
  | cons byte rest ih =>
      rw [ofBytes, List.map_cons, List.flatMap_cons, ← ofBytes, ih]
      rfl

theorem partOfRun_ofBytes {text : List UInt8} (nonempty : text ≠ []) :
    partOfRun (ofBytes text) = .literal (Utf8.decode .strayBytes text) := by
  rcases List.exists_cons_of_ne_nil nonempty with ⟨byte, rest, rfl⟩
  have made : partOfRun (ofBytes (byte :: rest)) =
      .literal (Utf8.decode .strayBytes ((ofBytes (byte :: rest)).flatMap bytes)) := rfl
  rw [made, flatMap_ofBytes]

end Grammar.Piece

theorem derives_bytes (bytes : List UInt8) :
    Derives (((Percent.encodeBytes .disallowedOnly bytes).map CodePoint.ofLatin).flatMap
      Part.printLiteralPoint) (Piece.ofBytes bytes) := by
  induction bytes with
  | nil => exact .nil
  | cons byte rest ih =>
      rw [Percent.encodeBytes_cons, List.map_append, List.flatMap_append]
      exact .cons (pieceText_byte byte) ih

/-- Literal text is derived with a piece for each of its bytes. -/
theorem derives_literal {text : Text} (encodable : Utf8.encodable text = true) :
    Derives (Part.printLiteral text) (Piece.ofBytes (Utf8.encode .strayBytes text)) := by
  have coding : Utf8.codingOf text = .strayBytes := if_pos encodable
  rw [Part.printLiteral, Percent.escape_eq_map rfl, coding]
  exact derives_bytes _

/-! ## Expressions -/

theorem pathText_print {path : List Text} (nonempty : path ≠ [])
    (names : ∀ name ∈ path, IsName name) :
    PathText ((['.'] : Text).intercalate path) path := by
  induction path with
  | nil => contradiction
  | cons name rest ih =>
      have head := names name (by simp)
      cases rest with
      | nil =>
          rw [List.intercalate_singleton]
          exact .single head
      | cons second rest =>
          have tail := ih (by simp) fun other member => names other (by simp [member])
          rw [List.intercalate_cons_cons, List.append_assoc]
          exact .dot head tail

theorem modifierText_print (modifier : Option Modifier) :
    ModifierText (modifier.elim [] Modifier.print) modifier := by
  cases modifier with
  | none => exact .none
  | some known =>
      cases known with
      | explode => exact .explode
      | maxLength length =>
          have isLength : IsLength (Text.ofNat length.value) :=
            ⟨Text.ofNat_ne_nil _, Text.length_ofNat_le length.value_le,
              fun _ member => Text.isDigit_of_mem_ofNat member⟩
          exact .maxLength isLength (Text.decimalValue_ofNat _).symm

theorem variableText_print {var : Variable} (names : ∀ name ∈ var.path, IsName name) :
    VariableText var.print var :=
  .mk (pathText_print var.path_ne_nil names) (modifierText_print var.modifier)

theorem variablesText_print {vars : List Variable} (nonempty : vars ≠ [])
    (names : ∀ var ∈ vars, ∀ name ∈ var.path, IsName name) :
    VariablesText ((([','] : Text)).intercalate (vars.map Variable.print)) vars := by
  induction vars with
  | nil => contradiction
  | cons var rest ih =>
      have head := variableText_print (names var (by simp))
      cases rest with
      | nil =>
          rw [List.map_singleton, List.intercalate_singleton]
          exact .single head
      | cons second rest =>
          have tail := ih (by simp) fun other member => names other (by simp [member])
          rw [List.map_cons, List.map_cons, List.intercalate_cons_cons, List.append_assoc]
          exact .comma head tail

theorem expressionText_print {body : Expression}
    (names : ∀ var ∈ body.vars, ∀ name ∈ var.path, IsName name) :
    ExpressionText body.print body :=
  .mk (variablesText_print body.vars_ne_nil names)

/-! ## Templates -/

namespace Part

/-- The pieces that a part is printed as. -/
def pieces : Part → List Piece
  | literal text => Piece.ofBytes (Utf8.encode .strayBytes text)
  | separator => [.slash]
  | expression body => [.expression body]

/-- The pieces of a part are all of its kind. -/
theorem joins_of_mem_pieces {left right : Part} {piece other : Piece}
    (leftMember : piece ∈ left.pieces) (rightMember : other ∈ right.pieces) :
    Piece.joins piece other = left.joins right := by
  have kind : ∀ {part : Part} {piece : Piece}, piece ∈ part.pieces →
      (∃ text bytes, part = .literal text ∧ piece = .literal bytes) ∨
        (part = .separator ∧ piece = .slash) ∨
        ∃ body, part = .expression body ∧ piece = .expression body := by
    intro part piece member
    cases part with
    | literal text =>
        rcases List.mem_map.mp member with ⟨byte, _, rfl⟩
        exact .inl ⟨text, [byte], rfl, rfl⟩
    | separator => exact .inr (.inl ⟨rfl, List.mem_singleton.mp member⟩)
    | expression body => exact .inr (.inr ⟨body, rfl, List.mem_singleton.mp member⟩)
  rcases kind leftMember with ⟨_, _, rfl, rfl⟩ | ⟨rfl, rfl⟩ | ⟨_, rfl, rfl⟩ <;>
    rcases kind rightMember with ⟨_, _, rfl, rfl⟩ | ⟨rfl, rfl⟩ | ⟨_, rfl, rfl⟩ <;> rfl

theorem isChain_pieces (part : Part) :
    part.pieces.IsChain fun left right => Piece.joins left right = true := by
  cases part with
  | literal text =>
      apply Piece.isChain_of_isLiteral
      intro piece member
      exact Piece.isLiteral_of_mem_ofBytes member
  | separator => exact .singleton _
  | expression body => exact .singleton _

variable {part : Part}

theorem pieces_ne_nil (literal : ∀ text, part = .literal text → LiteralText text) :
    part.pieces ≠ [] := by
  cases part with
  | literal text =>
      intro empty
      have noBytes := List.map_eq_nil_iff.mp empty
      exact (literal text rfl).ne_nil (Utf8.eq_nil_of_encode_eq_nil noBytes)
  | separator => exact List.cons_ne_nil _ _
  | expression body => exact List.cons_ne_nil _ _

/-- The pieces of a part make up the part, if it is not a literal that decoding would spell in
another way. -/
theorem partOfRun_pieces (literal : ∀ text, part = .literal text → LiteralText text) :
    Piece.partOfRun part.pieces = part := by
  cases part with
  | literal text =>
      have canonical := literal text rfl
      have someBytes : Utf8.encode .strayBytes text ≠ [] := by
        intro empty
        exact canonical.ne_nil (Utf8.eq_nil_of_encode_eq_nil empty)
      have rejoined : Utf8.decode .strayBytes (Utf8.encode .strayBytes text) = text :=
        canonical.rejoin
      rw [pieces, Piece.partOfRun_ofBytes someBytes, rejoined]
  | separator => rfl
  | expression body => rfl

end Part

namespace Template

variable {template : Template}

theorem derives_part (canonical : template.Canonical) {part : Part}
    (member : part ∈ template.parts) : Derives part.print part.pieces := by
  cases part with
  | literal text => exact derives_literal (canonical.literals text member).encodable
  | separator => exact PieceText.slash.derives
  | expression body =>
      have inside : body ∈ template.expressions := List.mem_filterMap.mpr ⟨_, member, rfl⟩
      exact (PieceText.expression (expressionText_print (canonical.names body inside))).derives

theorem derives_parts {parts : List Part}
    (every : ∀ part ∈ parts, Derives part.print part.pieces) :
    Derives (parts.flatMap Part.print) (parts.flatMap Part.pieces) := by
  induction parts with
  | nil => exact .nil
  | cons part rest ih =>
      rw [List.flatMap_cons, List.flatMap_cons]
      exact (every part (by simp)).append (ih fun other member => every other (by simp [member]))

/-- The pieces of a canonical template fall into its parts. -/
theorem parts_pieces (canonical : template.Canonical) :
    Piece.parts (template.parts.flatMap Part.pieces) = template.parts := by
  have literal : ∀ part ∈ template.parts, ∀ text, part = .literal text → LiteralText text := by
    intro part member text equal
    subst equal
    exact canonical.literals text member
  have runs : (template.parts.flatMap Part.pieces).splitBy Piece.joins =
      template.parts.map Part.pieces := by
    rw [List.flatMap_def]
    apply List.splitBy_flatten
    · intro empty
      rcases List.mem_map.mp empty with ⟨part, member, noPieces⟩
      exact Part.pieces_ne_nil (literal part member) noPieces
    · intro run member
      rcases List.mem_map.mp member with ⟨part, _, rfl⟩
      exact part.isChain_pieces
    · rw [List.isChain_map]
      apply canonical.apart.imp_of_mem_imp
      intro left right leftMember rightMember apart
      have leftPieces := Part.pieces_ne_nil (literal left leftMember)
      have rightPieces := Part.pieces_ne_nil (literal right rightMember)
      refine ⟨leftPieces, rightPieces, ?_⟩
      rw [Part.joins_of_mem_pieces (List.getLast_mem leftPieces) (List.head_mem rightPieces)]
      exact apart
  have whole : ∀ part ∈ template.parts, (Piece.partOfRun ∘ Part.pieces) part = id part := by
    intro part member
    exact Part.partOfRun_pieces (literal part member)
  rw [Piece.parts, runs, List.map_map, List.map_congr_left whole, List.map_id]

/-- Parsing undoes printing on canonical templates. -/
theorem parse_print_of_canonical (canonical : template.Canonical) :
    parse template.print = .ok template := by
  have derived : Derives template.print (template.parts.flatMap Part.pieces) := by
    apply derives_parts
    intro part member
    exact derives_part canonical member
  rw [parse_of_derives derived, parts_pieces canonical]

/-- Parsing undoes printing on the canonical templates and on no others, and every result of
parsing is canonical, so printing it and parsing it again changes nothing. -/
theorem parse_print_iff_canonical :
    (∀ template : Template, parse template.print = .ok template ↔ template.Canonical) ∧
      ∀ (text : Text) (template : Template), parse text = .ok template →
        template.Canonical ∧ parse template.print = .ok template := by
  constructor
  · intro template
    exact ⟨canonical_of_parse, parse_print_of_canonical⟩
  · intro text template parsed
    have canonical := canonical_of_parse parsed
    exact ⟨canonical, parse_print_of_canonical canonical⟩

end Template

end UriTemplate
