import Mathlib.Data.List.SplitBy
import UriTemplate.Template
import UriTemplate.Proofs.Percent.Unescape
import UriTemplate.Proofs.Text.Decimal

/-!
# The grammar of templates

A template is a sequence of pieces: literal characters, percent triplets, slashes, and
expressions. Each rule of the grammar is a relation between a text and what it stands for, so
that a derivation of a template is also a reading of it. A literal character stands for its
bytes and a triplet for one byte.

The parts of a template are its maximal runs of pieces: a run of literal pieces is one literal
with the text of all its bytes, a run of slashes is one separator, and an expression is a part
on its own.
-/

set_option autoImplicit false

namespace UriTemplate.Grammar

/-! ## Rules -/

/-- The characters that have a meaning of their own outside expressions or may not stand there
at all. -/
def excluded : Text :=
  (['"', '\'', '<', '>', '\\', '^', '|', '\x7d', '\x60', '/', '\x7b', '%'] : List Char).map
    CodePoint.ofChar

/-- A code point that stands for itself outside expressions: it is above the blank, it is not
excluded, and if it is a surrogate it carries a byte. -/
def IsLiteral (point : CodePoint) : Prop :=
  0x20 < point.toNat ∧ point ∉ excluded ∧
    (point.isSurrogate = true → 0xDC80 ≤ point.toNat ∧ point.toNat ≤ 0xDCFF)

/-- A name: one or more ASCII letters, digits and underscores. -/
def IsName (text : Text) : Prop :=
  text ≠ [] ∧ ∀ point ∈ text, point.isNameChar = true

/-- The digits of a length: one to four. -/
def IsLength (digits : Text) : Prop :=
  digits ≠ [] ∧ digits.length ≤ 4 ∧ ∀ digit ∈ digits, digit.isDigit = true

/-- A path: names with dots between them. -/
inductive PathText : Text → List Text → Prop where
  | single {name : Text} : IsName name → PathText name [name]
  | dot {name rest : Text} {path : List Text} :
      IsName name → PathText rest path → PathText (name ++ ('.' : CodePoint) :: rest) (name :: path)

/-- What may follow a path: nothing, a star, or a colon and a length. -/
inductive ModifierText : Text → Option Modifier → Prop where
  | none : ModifierText [] none
  | explode : ModifierText ['*'] (some .explode)
  | maxLength {digits : Text} {length : MaxLength} :
      IsLength digits → length.value = Text.decimalValue digits →
      ModifierText (':' :: digits) (some (.maxLength length))

/-- A variable: a path and its modifier. -/
inductive VariableText : Text → Variable → Prop where
  | mk {path modifier : Text} {var : Variable} :
      PathText path var.path → ModifierText modifier var.modifier →
      VariableText (path ++ modifier) var

/-- One or more variables with commas between them. -/
inductive VariablesText : Text → List Variable → Prop where
  | single {text : Text} {var : Variable} : VariableText text var → VariablesText text [var]
  | comma {text rest : Text} {var : Variable} {vars : List Variable} :
      VariableText text var → VariablesText rest vars →
      VariablesText (text ++ (',' : CodePoint) :: rest) (var :: vars)

/-- An expression: variables in braces, behind the symbol of an operator if there is one. -/
inductive ExpressionText : Text → Expression → Prop where
  | mk {vars : Text} {body : Expression} : VariablesText vars body.vars →
      ExpressionText
        (('\x7b' : CodePoint) :: body.operator.symbol ++ (vars ++ (['\x7d'] : Text))) body

/-- A piece of a template, as it is read. -/
inductive Piece where
  | literal (bytes : List UInt8)
  | slash
  | expression (body : Expression)
  deriving DecidableEq, Repr

/-- The text of a piece. -/
inductive PieceText : Text → Piece → Prop where
  | point {point : CodePoint} : IsLiteral point →
      PieceText [point] (.literal (Utf8.encodePoint .strayBytes point))
  | triplet {high low : CodePoint} {byte : UInt8} : high.hexByte? low = some byte →
      PieceText ['%', high, low] (.literal [byte])
  | slash : PieceText ['/'] .slash
  | expression {text : Text} {body : Expression} : ExpressionText text body →
      PieceText text (.expression body)

/-- A text is derived as a sequence of pieces. -/
inductive Derives : Text → List Piece → Prop where
  | nil : Derives [] []
  | cons {text rest : Text} {piece : Piece} {pieces : List Piece} :
      PieceText text piece → Derives rest pieces → Derives (text ++ rest) (piece :: pieces)

/-- What is derived in two halves is derived as a whole. -/
theorem Derives.append {left right : Text} {leftPieces rightPieces : List Piece}
    (first : Derives left leftPieces) (second : Derives right rightPieces) :
    Derives (left ++ right) (leftPieces ++ rightPieces) := by
  induction first with
  | nil => exact second
  | cons pieceDerived _ ih =>
      rw [List.append_assoc]
      exact .cons pieceDerived ih

theorem PieceText.derives {text : Text} {piece : Piece} (derived : PieceText text piece) :
    Derives text [piece] := by
  have alone := Derives.cons derived .nil
  rwa [List.append_nil] at alone

/-- The texts that are derived in some way. -/
def Derivable (text : Text) : Prop :=
  ∃ pieces, Derives text pieces

theorem PieceText.derivable {text : Text} {piece : Piece} (derived : PieceText text piece) :
    Derivable text :=
  ⟨[piece], derived.derives⟩

theorem Derivable.append {left right : Text} (first : Derivable left)
    (second : Derivable right) : Derivable (left ++ right) := by
  rcases first with ⟨leftPieces, leftDerived⟩
  rcases second with ⟨rightPieces, rightDerived⟩
  exact ⟨leftPieces ++ rightPieces, leftDerived.append rightDerived⟩

/-! ## Parts -/

namespace Piece

/-- The bytes that a piece adds to a literal. -/
def bytes : Piece → List UInt8
  | literal bytes => bytes
  | _ => []

/-- Whether two neighbours belong to the same part. -/
def joins : Piece → Piece → Bool
  | literal _, literal _ => true
  | slash, slash => true
  | _, _ => false

/-- The part that a run of pieces is. -/
def partOfRun : List Piece → Part
  | slash :: _ => .separator
  | expression body :: _ => .expression body
  | run => .literal (Utf8.decode .strayBytes (run.flatMap bytes))

/-- The parts that pieces make up: one for each maximal run. -/
def parts (pieces : List Piece) : List Part :=
  (pieces.splitBy joins).map partOfRun

/-- Pieces fall into parts separately where neighbours do not join. -/
theorem parts_append {left right : List Piece}
    (apart : ∀ last ∈ left.getLast?, ∀ first ∈ right.head?, joins last first = false) :
    parts (left ++ right) = parts left ++ parts right := by
  rw [parts, List.splitBy_append apart, List.map_append]
  rfl

/-- A run is one part. -/
theorem parts_run {run : List Piece} (nonempty : run ≠ [])
    (joined : run.IsChain fun left right => joins left right = true) :
    parts run = [partOfRun run] := by
  rw [parts, List.splitBy_of_isChain nonempty joined]
  rfl

theorem joins_trans {left middle right : Piece} (first : joins left middle = true)
    (second : joins middle right = true) : joins left right = true := by
  cases left <;> cases middle <;> cases right <;> simp_all [joins]

instance : Trans (fun left right => joins left right = true)
    (fun left right => joins left right = true) (fun left right => joins left right = true) where
  trans := joins_trans

/-- Whether a piece is literal. -/
def isLiteral : Piece → Bool
  | literal _ => true
  | _ => false

theorem joins_of_isLiteral {left right : Piece} (leftLiteral : left.isLiteral = true)
    (rightLiteral : right.isLiteral = true) : joins left right = true := by
  cases left <;> cases right <;> simp_all [isLiteral, joins]

theorem joins_eq_false {left right : Piece} (leftOther : left.isLiteral = false)
    (rightLiteral : right.isLiteral = true) : joins left right = false := by
  cases left <;> cases right <;> simp_all [isLiteral, joins]

theorem isChain_of_isLiteral {run : List Piece} (literals : ∀ piece ∈ run, piece.isLiteral = true) :
    run.IsChain fun left right => joins left right = true := by
  apply List.Pairwise.isChain
  apply List.pairwise_of_forall_mem_list
  intro left leftMember right rightMember
  exact joins_of_isLiteral (literals left leftMember) (literals right rightMember)

/-- A run of literal pieces is a literal with all their bytes. -/
theorem parts_literals {run : List Piece} (nonempty : run ≠ [])
    (literals : ∀ piece ∈ run, piece.isLiteral = true) :
    parts run = [.literal (Utf8.decode .strayBytes (run.flatMap bytes))] := by
  rw [parts_run nonempty (isChain_of_isLiteral literals)]
  cases run with
  | nil => contradiction
  | cons piece rest =>
      cases piece with
      | literal => rfl
      | slash => cases literals slash (by simp)
      | expression body => cases literals (expression body) (by simp)

/-- A run whose first piece is a slash ends with one. -/
theorem getLast?_of_slash {rest : List Piece}
    (joined : (slash :: rest).IsChain fun left right => joins left right = true) :
    (slash :: rest).getLast? = some slash := by
  cases reversed : rest.getLast? with
  | none =>
      rw [List.getLast?_eq_none_iff.mp reversed]
      rfl
  | some last =>
      have related : joins slash last = true := joined.rel_cons (List.mem_of_getLast? reversed)
      rw [List.getLast?_cons, reversed]
      cases last with
      | slash => rfl
      | literal bytes => cases related
      | expression body => cases related

/-- Where the last part is a separator, the last piece is a slash. -/
theorem getLast?_of_parts {pieces : List Piece}
    (last : (parts pieces).getLast? = some .separator) : pieces.getLast? = some slash := by
  rw [parts, List.getLast?_map, Option.map_eq_some_iff] at last
  rcases last with ⟨run, runLast, isSeparator⟩
  have joined := List.isChain_of_mem_splitBy (List.mem_of_getLast? runLast)
  rcases List.getLast?_eq_some_iff.mp runLast with ⟨before, split⟩
  have flattened : pieces = before.flatten ++ run := by
    rw [← List.flatten_splitBy joins pieces, split, List.flatten_append]
    simp
  rw [flattened, List.getLast?_append]
  cases run with
  | nil => cases isSeparator
  | cons first rest =>
      cases first with
      | literal bytes => cases isSeparator
      | expression body => cases isSeparator
      | slash =>
          rw [getLast?_of_slash joined]
          rfl

/-- Pieces end with a longest run of slashes. -/
theorem exists_slashes (pieces : List Piece) :
    ∃ before count, pieces = before ++ List.replicate count slash ∧
      before.getLast? ≠ some slash := by
  induction pieces using List.reverseRecOn with
  | nil => exact ⟨[], 0, rfl, by simp⟩
  | append_singleton pieces piece ih =>
      by_cases isSlash : piece = slash
      · rcases ih with ⟨before, count, rfl, last⟩
        refine ⟨before, count + 1, ?_, last⟩
        rw [isSlash, List.append_assoc, List.replicate_succ']
      · refine ⟨pieces ++ [piece], 0, by simp, ?_⟩
        rw [List.getLast?_concat]
        exact fun equal => isSlash (Option.some.inj equal)

/-- A run of slashes is one separator. -/
theorem parts_append_slashes {before : List Piece} (apart : before.getLast? ≠ some slash)
    (count : Nat) :
    parts (before ++ List.replicate (count + 1) slash) = parts before ++ [.separator] := by
  rw [parts_append]
  · congr 1
    apply parts_run (by simp)
    apply List.Pairwise.isChain
    rw [List.pairwise_replicate]
    exact .inr rfl
  · intro last isLast first isFirst
    rw [List.replicate_succ, List.head?_cons] at isFirst
    cases isFirst
    cases last with
    | slash => exact absurd isLast apart
    | literal bytes => rfl
    | expression body => rfl

/-- One more slash makes a separator only if there is none at the end. -/
theorem parts_append_slash (pieces : List Piece) :
    parts (pieces ++ [slash]) =
      if (parts pieces).getLast? = some .separator then parts pieces
      else parts pieces ++ [.separator] := by
  rcases exists_slashes pieces with ⟨before, count, rfl, apart⟩
  have more : before ++ List.replicate count slash ++ [slash] =
      before ++ List.replicate (count + 1) slash := by
    rw [List.append_assoc, List.replicate_succ']
  rw [more, parts_append_slashes apart]
  cases count with
  | zero =>
      have noSeparator : (parts (before ++ List.replicate 0 slash)).getLast? ≠
          some .separator := by
        intro last
        rw [List.replicate_zero, List.append_nil] at last
        exact apart (getLast?_of_parts last)
      rw [if_neg noSeparator, List.replicate_zero, List.append_nil]
  | succ count => rw [parts_append_slashes apart, List.getLast?_concat, if_pos rfl]

/-- An expression is a part on its own. -/
theorem parts_append_expression (pieces : List Piece) (body : Expression) :
    parts (pieces ++ [expression body]) = parts pieces ++ [.expression body] := by
  apply parts_append
  intro last _ first isFirst
  cases isFirst
  cases last <;> rfl

end Piece

end UriTemplate.Grammar
