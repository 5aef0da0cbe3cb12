import UriTemplate.Proofs.Template.Acceptance

/-!
# Canonical templates

A template is canonical if it can be the result of parsing: literal text is not empty and is
spelled as its bytes spell it, neighbours are not of the same kind where the parser would have
made them one part, and names are names. The parts of derived pieces are canonical, since each
run of pieces is as long as it can be and a run of literal pieces is decoded from its bytes.
-/

set_option autoImplicit false

namespace UriTemplate

open Grammar

/-- Whether two neighbours would be one part. -/
def Part.joins : Part → Part → Bool
  | literal _, literal _ => true
  | separator, separator => true
  | _, _ => false

/-- Literal text that encoding to bytes and decoding them again leaves as it is. -/
structure LiteralText (text : Text) : Prop where
  ne_nil : text ≠ []
  encodable : Utf8.encodable text = true
  rejoin : Utf8.rejoin text = text

/-- The templates that are results of parsing. -/
structure Template.Canonical (template : Template) : Prop where
  literals : ∀ text, Part.literal text ∈ template.parts → LiteralText text
  apart : template.parts.IsChain fun left right => left.joins right = false
  names : ∀ expression ∈ template.expressions, ∀ var ∈ expression.vars, ∀ name ∈ var.path,
    IsName name

namespace Grammar

/-! ## Names of derived expressions -/

theorem PathText.names {text : Text} {path : List Text} (derived : PathText text path) :
    ∀ name ∈ path, IsName name := by
  induction derived with
  | single isName =>
      intro other member
      rw [List.mem_singleton.mp member]
      exact isName
  | dot isName _ ih =>
      intro other member
      rcases List.mem_cons.mp member with rfl | member
      · exact isName
      · exact ih other member

theorem VariablesText.names {text : Text} {vars : List Variable}
    (derived : VariablesText text vars) :
    ∀ var ∈ vars, ∀ name ∈ var.path, IsName name := by
  have ofVariable : ∀ {text : Text} {var : Variable}, VariableText text var →
      ∀ name ∈ var.path, IsName name := by
    intro text var variableDerived
    cases variableDerived with
    | mk path _ => exact path.names
  induction derived with
  | single variableDerived =>
      intro var member
      rw [List.mem_singleton.mp member]
      exact ofVariable variableDerived
  | comma variableDerived _ ih =>
      intro var member
      rcases List.mem_cons.mp member with rfl | member
      · exact ofVariable variableDerived
      · exact ih var member

/-! ## Derived pieces -/

/-- A piece as the grammar derives it: there are bytes in a literal one, and the names of an
expression are names. -/
def Piece.Sound : Piece → Prop
  | literal bytes => bytes ≠ []
  | slash => True
  | expression body => ∀ var ∈ body.vars, ∀ name ∈ var.path, IsName name

theorem PieceText.sound {text : Text} {piece : Piece} (derived : PieceText text piece) :
    piece.Sound := by
  cases derived with
  | point _ => exact Utf8.encodePoint_ne_nil _ _
  | triplet _ => exact List.cons_ne_nil _ _
  | slash => trivial
  | expression derived =>
      rcases derived with ⟨list⟩
      exact list.names

theorem Derives.sound {text : Text} {pieces : List Piece} (derived : Derives text pieces) :
    ∀ piece ∈ pieces, piece.Sound := by
  induction derived with
  | nil =>
      intro piece member
      cases member
  | cons pieceDerived _ ih =>
      intro other member
      rcases List.mem_cons.mp member with rfl | member
      · exact pieceDerived.sound
      · exact ih other member

namespace Piece

variable {pieces : List Piece}

/-- A part is made of a run, and of pieces that are there. -/
theorem exists_run_of_mem_parts {part : Part} (member : part ∈ parts pieces) :
    ∃ first rest, part = partOfRun (first :: rest) ∧ first ∈ pieces := by
  rcases List.mem_map.mp member with ⟨run, inside, rfl⟩
  rcases List.exists_cons_of_ne_nil (List.ne_nil_of_mem_splitBy inside) with ⟨first, rest, rfl⟩
  refine ⟨first, rest, rfl, ?_⟩
  rw [← List.flatten_splitBy joins pieces]
  exact List.mem_flatten.mpr ⟨_, inside, by simp⟩

/-- Decoded bytes are literal text. -/
theorem literalText_of_mem_parts (sound : ∀ piece ∈ pieces, piece.Sound) {text : Text}
    (member : .literal text ∈ parts pieces) : LiteralText text := by
  rcases exists_run_of_mem_parts member with ⟨first, rest, made, inside⟩
  cases first with
  | slash => cases made
  | expression body => cases made
  | literal bytes =>
      cases made
      have someBytes : (literal bytes :: rest).flatMap Piece.bytes ≠ [] := by
        intro empty
        rw [List.flatMap_cons, List.append_eq_nil_iff] at empty
        exact sound _ inside empty.1
      refine ⟨?_, Utf8.encodable_decode _, Utf8.rejoin_decode _⟩
      rw [Ne, Utf8.decode_eq_nil_iff]
      exact someBytes

theorem mem_of_mem_parts {body : Expression} (member : .expression body ∈ parts pieces) :
    expression body ∈ pieces := by
  rcases exists_run_of_mem_parts member with ⟨first, rest, made, inside⟩
  cases first with
  | slash => cases made
  | literal bytes => cases made
  | expression other =>
      cases made
      exact inside

/-- Parts are of the kind of the pieces that they begin with. -/
theorem joins_partOfRun (left right : Piece) (leftRest rightRest : List Piece) :
    (partOfRun (left :: leftRest)).joins (partOfRun (right :: rightRest)) =
      joins left right := by
  cases left <;> cases right <;> rfl

/-- Pieces that join one another join the same pieces. -/
theorem joins_congr {left right : Piece} (related : joins left right = true) (other : Piece) :
    joins left other = joins right other := by
  cases left <;> cases right <;> cases other <;> first | rfl | cases related

/-- The first piece of a run and the last one join the same pieces. -/
theorem joins_getLast {first : Piece} {rest : List Piece}
    (joined : (first :: rest).IsChain fun left right => joins left right = true) (other : Piece) :
    joins ((first :: rest).getLast (List.cons_ne_nil _ _)) other = joins first other := by
  rcases List.mem_cons.mp (List.getLast_mem (List.cons_ne_nil first rest)) with same | inside
  · rw [same]
  · exact (joins_congr (joined.rel_cons inside) other).symm

/-- Neighbours among the parts are apart, for the runs could not be longer. -/
theorem isChain_parts (pieces : List Piece) :
    (parts pieces).IsChain fun left right => left.joins right = false := by
  rw [parts, List.isChain_map]
  apply (List.isChain_getLast_head_splitBy joins pieces).imp_of_mem_imp
  intro left right leftRun rightRun neighbours
  rcases neighbours with ⟨leftNonempty, rightNonempty, apart⟩
  rcases List.exists_cons_of_ne_nil leftNonempty with ⟨first, rest, rfl⟩
  rcases List.exists_cons_of_ne_nil rightNonempty with ⟨other, more, rfl⟩
  rw [joins_partOfRun, ← joins_getLast (List.isChain_of_mem_splitBy leftRun)]
  exact apart

end Piece

end Grammar

namespace Template

/-- The parts of a derivation are canonical. -/
theorem canonical_of_derives {text : Text} {pieces : List Piece} (derived : Derives text pieces) :
    Canonical ⟨Piece.parts pieces⟩ where
  literals := fun _ member => Piece.literalText_of_mem_parts derived.sound member
  apart := Piece.isChain_parts pieces
  names := by
    intro expression member
    rcases List.mem_filterMap.mp member with ⟨part, inside, same⟩
    cases part with
    | literal text => cases same
    | separator => cases same
    | expression body =>
        cases same
        exact derived.sound _ (Piece.mem_of_mem_parts inside)

/-- What the parser returns is canonical. -/
theorem canonical_of_parse {text : Text} {template : Template}
    (parsed : parse text = .ok template) : template.Canonical := by
  rcases derivable_of_parse parsed with ⟨pieces, derived⟩
  rw [parse_of_derives derived] at parsed
  cases parsed
  exact canonical_of_derives derived

end Template

end UriTemplate
