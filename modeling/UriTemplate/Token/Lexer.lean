import UriTemplate.Token
import UriTemplate.Token.Fault

/-!
# The lexer

A lexer stands at a position of a template and hands out one token at a time. What the next
token is depends only on the state of the lexer and on the rest of the template, and
`Lexer.move` says so; `Lexer.next?` adds the positions. The stream of tokens ends with the
end of the template or with the first fault, and after that the lexer is exhausted.
-/

set_option autoImplicit false

namespace UriTemplate

namespace CodePoint

/-- The code point for a byte on its own. -/
def ofByte (byte : UInt8) : CodePoint :=
  if byte.toNat < 0x80 then ofLatin byte else ofStrayByte byte

/-- The characters that end a run of literal text without being wrong in it. -/
def endsLiteral (point : CodePoint) : Bool :=
  point == '/' || point == '\x7b' || point == '%'

/-- The visible characters that may not stand in a template outside expressions. -/
def forbidden : List Char :=
  ['"', '\'', '<', '>', '\\', '^', '|', '\x7d', '\x60']

/-- Whether a code point may not stand in literal text: a control character, a blank, one
of the forbidden characters, or a surrogate that carries no byte. -/
def isIllegalLiteral (point : CodePoint) : Bool :=
  point.toNat ≤ 0x20 || forbidden.any (fun char => point == ofChar char) ||
    point.isLoneSurrogate

/-- Whether a code point may stand in literal text as itself. -/
def isLiteral (point : CodePoint) : Bool :=
  !point.endsLiteral && !point.isIllegalLiteral

/-- The characters that are operators. -/
def isOperator (point : CodePoint) : Bool :=
  (['+', '#', '.', '/', ';', '?', '&'] : List Char).any fun char => point == ofChar char

/-- The characters that are kept for operators to come. -/
def isReservedOperator (point : CodePoint) : Bool :=
  (['=', ',', '!', '@', '|'] : List Char).any fun char => point == ofChar char

end CodePoint

namespace Lexer

/-- Where the lexer stands between two tokens: outside expressions, behind an opening
brace, inside an expression, or behind a colon. -/
inductive State where
  | path
  | beginExpression
  | inExpression
  | length
  deriving DecidableEq, Repr

/-- What the lexer does next: hand out a token over `width` code points, stop at a fault
`offset` code points ahead, having passed `scanned` of them, or stop at the end. -/
inductive Move where
  | emit (type : TokenType) (value : Text) (width : Nat) (state : State)
  | fail (fault : LexicalFault) (offset scanned : Nat)
  | finish
  deriving DecidableEq, Repr

/-- Hand out a code point as it stands. -/
def emitPoint (type : TokenType) (point : CodePoint) (state : State) : Move :=
  .emit type [point] 1 state

/-- Hand out the code points that begin the rest and satisfy a condition. -/
def emitRun (type : TokenType) (accept : CodePoint → Bool) (rest : Text) (state : State) :
    Move :=
  .emit type (rest.takeWhile accept) (rest.takeWhile accept).length state

/-- Stop at the position of the lexer. -/
def failHere (fault : LexicalFault) : Move :=
  .fail fault 0 0

/-- The move at a percent sign, given what follows it. -/
def moveTriplet : Text → Move
  | high :: low :: _ =>
      match high.hexValue?, low.hexValue? with
      | some highValue, some lowValue =>
          .emit .raw [.ofByte (UInt8.ofNat (highValue * 16 + lowValue))] 3 .path
      | none, _ => .fail (.illegalTriplet high) 1 0
      | some _, none => .fail (.illegalTriplet low) 2 0
  | _ => failHere .unfinishedTriplet

/-- The move at the beginning of literal text. -/
def moveLiteral (rest : Text) : Move :=
  let width := (rest.takeWhile CodePoint.isLiteral).length
  match rest.dropWhile CodePoint.isLiteral with
  | [] => emitRun .raw CodePoint.isLiteral rest .path
  | point :: _ =>
      if point.endsLiteral then emitRun .raw CodePoint.isLiteral rest .path
      else .fail (.illegalCharacter point) width width

/-- The move outside expressions. -/
def movePath : Text → Move
  | [] => .finish
  | point :: rest =>
      if point = '/' then emitPoint .separator point .path
      else if point = '%' then moveTriplet rest
      else if point = '\x7b' then emitPoint .leftBrace point .beginExpression
      else moveLiteral (point :: rest)

/-- The move inside an expression. -/
def moveInExpression : Text → Move
  | [] => failHere .unfinishedExpression
  | point :: rest =>
      if point = '\x7d' then emitPoint .rightBrace point .path
      else if point = '.' then emitPoint .dot point .inExpression
      else if point = ',' then emitPoint .comma point .inExpression
      else if point.isNameChar then
        emitRun .name CodePoint.isNameChar (point :: rest) .inExpression
      else if point = '*' then emitPoint .explode point .inExpression
      else if point = ':' then emitPoint .colon point .length
      else failHere (.unexpected point)

/-- The move behind an opening brace. -/
def moveBeginExpression : Text → Move
  | [] => failHere .unfinishedExpression
  | point :: rest =>
      if point = '\x7d' then failHere .emptyExpression
      else if point.isNameChar then moveInExpression (point :: rest)
      else if point.isOperator then emitPoint .operator point .inExpression
      else if point.isReservedOperator then failHere (.reservedOperator point)
      else failHere (.unexpected point)

/-- The most digits that a length token has. Further digits become a name token. -/
def maxLengthDigits : Nat := 4

/-- The move behind a colon. -/
def moveLength (rest : Text) : Move :=
  match rest.take maxLengthDigits with
  | [] => failHere .missingLength
  | point :: more =>
      if point.isDigit then
        emitRun .length CodePoint.isDigit (point :: more) .inExpression
      else
        failHere .missingLength

/-- What the lexer does next in a state, given the rest of the template. -/
def move : State → Text → Move
  | .path, rest => movePath rest
  | .beginExpression, rest => moveBeginExpression rest
  | .inExpression, rest => moveInExpression rest
  | .length, rest => moveLength rest

/-- Whether a move hands out a token that takes up some of the rest, or hands out none. -/
def Move.Advances (rest : Text) : Move → Prop
  | .emit _ _ width _ => 0 < width ∧ width ≤ rest.length
  | _ => True

theorem advances_emitPoint {type : TokenType} {point : CodePoint} {rest : Text}
    {state : State} : (emitPoint type point state).Advances (point :: rest) := by
  simp [emitPoint, Move.Advances]

theorem advances_emitRun {type : TokenType} {accept : CodePoint → Bool}
    {point : CodePoint} {rest : Text} {state : State} (accepted : accept point = true) :
    (emitRun type accept (point :: rest) state).Advances (point :: rest) := by
  simp only [emitRun, Move.Advances, List.takeWhile_cons, accepted, if_true,
    List.length_cons]
  constructor
  · exact Nat.succ_pos _
  · exact Nat.succ_le_succ (List.takeWhile_sublist accept).length_le

theorem advances_moveTriplet {point : CodePoint} (rest : Text) :
    (moveTriplet rest).Advances (point :: rest) := by
  unfold moveTriplet
  split
  · split <;> simp [Move.Advances]
  · trivial

theorem advances_moveLiteral {point : CodePoint} {rest : Text}
    (inside : point.endsLiteral = false) :
    (moveLiteral (point :: rest)).Advances (point :: rest) := by
  by_cases legal : point.isLiteral
  · unfold moveLiteral
    split
    · exact advances_emitRun legal
    · split
      · exact advances_emitRun legal
      · trivial
  · simp [moveLiteral, legal, inside, Move.Advances]

theorem advances_movePath (rest : Text) : (movePath rest).Advances rest := by
  cases rest with
  | nil => trivial
  | cons point rest =>
      simp only [movePath]
      split
      · exact advances_emitPoint
      split
      · exact advances_moveTriplet rest
      split
      · exact advances_emitPoint
      · apply advances_moveLiteral
        simp_all [CodePoint.endsLiteral]

theorem advances_moveInExpression (rest : Text) :
    (moveInExpression rest).Advances rest := by
  cases rest with
  | nil => trivial
  | cons point rest =>
      simp only [moveInExpression]
      split
      · exact advances_emitPoint
      split
      · exact advances_emitPoint
      split
      · exact advances_emitPoint
      split
      next accepted => exact advances_emitRun accepted
      split
      · exact advances_emitPoint
      split
      · exact advances_emitPoint
      · trivial

theorem advances_moveBeginExpression (rest : Text) :
    (moveBeginExpression rest).Advances rest := by
  cases rest with
  | nil => trivial
  | cons point rest =>
      simp only [moveBeginExpression]
      split
      · trivial
      split
      · exact advances_moveInExpression _
      split
      · exact advances_emitPoint
      split <;> trivial

theorem advances_moveLength (rest : Text) : (moveLength rest).Advances rest := by
  unfold moveLength
  split
  · trivial
  next point more taken =>
    split
    next digit =>
      have shorter : (point :: more).length ≤ rest.length := by
        rw [← taken]
        exact (List.take_sublist _ _).length_le
      have advances :=
        @advances_emitRun .length CodePoint.isDigit point more .inExpression digit
      exact ⟨advances.1, Nat.le_trans advances.2 shorter⟩
    · trivial

/-- Every token except the last takes up some of the rest. -/
theorem advances_move (state : State) (rest : Text) : (move state rest).Advances rest := by
  cases state with
  | path => exact advances_movePath rest
  | beginExpression => exact advances_moveBeginExpression rest
  | inExpression => exact advances_moveInExpression rest
  | length => exact advances_moveLength rest

end Lexer

/-- A lexer. It is exhausted if it has no state. `start` is where the next token begins,
and `pos` is how far the lexer has looked; they differ only behind a fault. -/
structure Lexer where
  state : Option Lexer.State
  rest : Text
  start : Nat
  pos : Nat
  deriving DecidableEq, Repr

namespace Lexer

/-- The lexer at the beginning of a template. -/
def ofTemplate (template : Text) : Lexer :=
  ⟨some .path, template, 0, 0⟩

/-- Make a move. -/
def apply (lexer : Lexer) : Move → Token × Lexer
  | .emit type value width state =>
      (⟨type, value, lexer.start⟩,
        ⟨some state, lexer.rest.drop width, lexer.pos + width, lexer.pos + width⟩)
  | .fail fault offset scanned =>
      (⟨.error, fault.message, (lexer.pos + offset : Nat)⟩,
        ⟨none, lexer.rest, lexer.start, lexer.pos + scanned⟩)
  | .finish => (⟨.endOfInput, [], lexer.start⟩, { lexer with state := none })

/-- The next token, and the lexer behind it. -/
def next? (lexer : Lexer) : Option (Token × Lexer) :=
  lexer.state.map fun state => lexer.apply (move state lexer.rest)

/-- A bound on the number of tokens to come. -/
def remaining (lexer : Lexer) : Nat :=
  lexer.state.elim 0 fun _ => lexer.rest.length + 1

theorem remaining_lt_of_next? {lexer following : Lexer} {token : Token}
    (step : lexer.next? = some (token, following)) :
    following.remaining < lexer.remaining := by
  obtain ⟨state, some_state, applied⟩ := Option.map_eq_some_iff.mp step
  have advances := advances_move state lexer.rest
  simp only [remaining, some_state, Option.elim]
  cases made : move state lexer.rest with
  | emit type value width target =>
      rw [made] at advances applied
      cases applied
      simp only [List.length_drop]
      have := advances.1
      have := advances.2
      omega
  | fail fault offset scanned =>
      rw [made] at applied
      cases applied
      simp
  | finish =>
      rw [made] at applied
      cases applied
      simp

/-- The tokens that a lexer has to hand out. -/
def tokens (lexer : Lexer) : List Token :=
  match _step : lexer.next? with
  | some (token, following) => token :: following.tokens
  | none => []
  termination_by lexer.remaining
  decreasing_by exact remaining_lt_of_next? _step

theorem tokens_of_next? {lexer following : Lexer} {token : Token}
    (step : lexer.next? = some (token, following)) :
    lexer.tokens = token :: following.tokens := by
  rw [tokens]
  split
  next again =>
    rw [step] at again
    cases again
    rfl
  next missing =>
    rw [step] at missing
    cases missing

theorem tokens_of_exhausted {lexer : Lexer} (exhausted : lexer.next? = none) :
    lexer.tokens = [] := by
  rw [tokens]
  split
  next found =>
    rw [exhausted] at found
    cases found
  next => rfl

/-- The lexer behind its last token. -/
def drained (lexer : Lexer) : Lexer :=
  match _step : lexer.next? with
  | some (_, following) => following.drained
  | none => lexer
  termination_by lexer.remaining
  decreasing_by exact remaining_lt_of_next? _step

end Lexer

/-- The tokens of a template. -/
def tokenize (template : Text) : List Token :=
  (Lexer.ofTemplate template).tokens

end UriTemplate
