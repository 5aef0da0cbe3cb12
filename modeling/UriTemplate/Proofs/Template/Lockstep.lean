import UriTemplate.Proofs.Template.Failure

/-!
# Lexer and parser in lockstep

The lexer and the parser each have their own state, and neither looks at that of the other. Still
the state of the parser determines that of the lexer as long as parsing goes on, so only some
tokens can arrive in each state of the parser. All of them are provided for, except for the mark
of a modifier where a name has to stand.
-/

set_option autoImplicit false

namespace UriTemplate

open Grammar

/-! ## Tokens of the lexer -/

namespace Lexer

/-- The types of the tokens that the lexer hands out in a state. -/
def State.tokenTypes : State → List TokenType
  | path => [.separator, .raw, .leftBrace, .endOfInput, .error]
  | beginExpression => [.operator, .name, .error]
  | inExpression => [.rightBrace, .dot, .comma, .name, .explode, .colon, .error]
  | length => [.length, .error]

/-- The type of the token that a move hands out. -/
def Move.tokenType : Move → TokenType
  | emit type _ _ _ => type
  | fail _ _ _ => .error
  | finish => .endOfInput

@[simp] theorem tokenType_emit {type : TokenType} {value : Text} {width : Nat} {state : State} :
    (Move.emit type value width state).tokenType = type := rfl

@[simp] theorem tokenType_fail {fault : LexicalFault} {offset scanned : Nat} :
    (Move.fail fault offset scanned).tokenType = .error := rfl

variable {rest : Text} {behind : Lexer} {token : Token}

theorem tokenType_moveTriplet (rest : Text) :
    (moveTriplet rest).tokenType = .raw ∨ (moveTriplet rest).tokenType = .error := by
  unfold moveTriplet
  split
  · split <;> simp
  · exact .inr rfl

theorem tokenType_moveLiteral (rest : Text) :
    (moveLiteral rest).tokenType = .raw ∨ (moveLiteral rest).tokenType = .error := by
  unfold moveLiteral
  split
  · exact .inl rfl
  · split
    · exact .inl rfl
    · exact .inr rfl

theorem tokenType_movePath (rest : Text) :
    (movePath rest).tokenType ∈ State.path.tokenTypes := by
  cases rest with
  | nil => decide
  | cons point rest =>
      simp only [movePath]
      split
      · simp [emitPoint, State.tokenTypes]
      split
      · rcases tokenType_moveTriplet rest with raw | error
        · simp [raw, State.tokenTypes]
        · simp [error, State.tokenTypes]
      split
      · simp [emitPoint, State.tokenTypes]
      · rcases tokenType_moveLiteral (point :: rest) with raw | error
        · simp [raw, State.tokenTypes]
        · simp [error, State.tokenTypes]

theorem tokenType_moveInExpression (rest : Text) :
    (move .inExpression rest).tokenType ∈ State.inExpression.tokenTypes := by
  cases rest with
  | nil => decide
  | cons point rest =>
      cases sign point with
      | nameChar names => simp [move_name names, State.tokenTypes]
      | rightBrace => simp [move_rightBrace, State.tokenTypes]
      | dot => simp [move_dot, State.tokenTypes]
      | comma => simp [move_comma, State.tokenTypes]
      | star => simp [move_star, State.tokenTypes]
      | colon => simp [move_colon, State.tokenTypes]
      | other names rightBrace dot comma star colon =>
          simp [move_other names rightBrace dot comma star colon, State.tokenTypes]

/-- Inside an expression a name token begins with a character of names. -/
theorem isNameChar_of_tokenType (name : (move .inExpression rest).tokenType = .name) :
    ∃ point ∈ rest.head?, point.isNameChar = true := by
  cases rest with
  | nil => cases name
  | cons point rest =>
      refine ⟨point, rfl, ?_⟩
      cases sign point with
      | nameChar names => exact names
      | rightBrace => simp [move_rightBrace] at name
      | dot => simp [move_dot] at name
      | comma => simp [move_comma] at name
      | star => simp [move_star] at name
      | colon => simp [move_colon] at name
      | other names rightBrace dot comma star colon =>
          simp [move_other names rightBrace dot comma star colon] at name

theorem tokenType_moveBeginExpression (rest : Text) :
    (moveBeginExpression rest).tokenType ∈ State.beginExpression.tokenTypes := by
  cases rest with
  | nil => decide
  | cons point rest =>
      simp only [moveBeginExpression]
      split
      · simp [failHere, State.tokenTypes]
      split
      next names =>
        have made : moveInExpression (point :: rest) = _ := move_name names
        simp [made, State.tokenTypes]
      split
      · simp [emitPoint, State.tokenTypes]
      split <;> simp [failHere, State.tokenTypes]

theorem tokenType_moveLength (rest : Text) :
    (moveLength rest).tokenType ∈ State.length.tokenTypes := by
  unfold moveLength
  split
  · simp [failHere, State.tokenTypes]
  · split <;> simp [failHere, emitRun, State.tokenTypes]

/-- Each state of the lexer has its own types of tokens. -/
theorem tokenType_move (state : State) (rest : Text) :
    (move state rest).tokenType ∈ state.tokenTypes := by
  cases state with
  | path => exact tokenType_movePath rest
  | beginExpression => exact tokenType_moveBeginExpression rest
  | inExpression => exact tokenType_moveInExpression rest
  | length => exact tokenType_moveLength rest

theorem type_of_next? {state : State} {position : Nat}
    (step : (between state rest position).next? = some (token, behind)) :
    token.type = (move state rest).tokenType := by
  cases made : move state rest with
  | emit type value width following =>
      rw [next?_of_emit made] at step
      cases step
      rfl
  | fail fault offset scanned =>
      rw [next?_of_fail made] at step
      cases step
      rfl
  | finish =>
      rw [next?_of_finish made] at step
      cases step
      rfl

end Lexer

/-! ## Reached states -/

namespace Parser

/-- Where parsing a template gets: the state of the parser, the lexer that has the tokens to come,
and the working fields. It goes on with each token but a fault and the end of the template. -/
inductive Reaches (template : Text) : State → Lexer → Parser → Prop where
  | start : Reaches template .raw (.ofTemplate template) (.start template)
  | step {state following : State} {lexer behind : Lexer} {parser fields : Parser}
      {token : Token} : Reaches template state lexer parser →
      lexer.next? = some (token, behind) → token.type ≠ .error →
      ¬(token.type = .endOfInput ∧ state = .raw) →
      (handle state token).outcome parser = (.ok following, fields) →
      Reaches template following behind fields

/-- The state of the lexer that goes with a state of the parser. -/
def State.lexerState : State → Lexer.State
  | raw => .path
  | maybeOperator => .beginExpression
  | expression => .inExpression
  | afterVariable => .inExpression
  | length => .length

namespace State

variable {state : State} {type : TokenType}

theorem eq_raw_of_tokenTypes (member : type ∈ state.lexerState.tokenTypes)
    (outside : type ∈ [TokenType.raw, .separator, .leftBrace, .endOfInput]) : state = .raw := by
  revert member outside
  cases state <;> cases type <;> decide

theorem eq_maybeOperator_of_tokenTypes (member : .operator ∈ state.lexerState.tokenTypes) :
    state = .maybeOperator := by
  revert member
  cases state <;> decide

theorem eq_length_of_tokenTypes (member : .length ∈ state.lexerState.tokenTypes) :
    state = .length := by
  revert member
  cases state <;> decide

end State

/-- Which tokens arrive in which states. A second name in a row arrives behind a modifier only,
where it is the fifth digit of a length or no part of the variable. -/
structure InStep (state : State) (modifier : Option Modifier) (token : Token) : Prop where
  outside : token.type ∈ [.raw, .separator, .leftBrace, .endOfInput] → state = .raw
  operator : token.type = .operator → state = .maybeOperator
  length : token.type = .length → state = .length
  behindColon : state = .length → token.type ∈ [.length, .error]
  behindBrace : state = .maybeOperator → token.type ∈ [.operator, .name, .error]
  extraName : state = .afterVariable → token.type = .name →
    (∃ length, modifier = some (.maxLength length)) ∨ modifier = some .explode

end Parser

/-- A reader corresponds to states that go together. -/
theorem Reader.Matches.lexerState_eq {template : Text} {reader : Reader} {state : Parser.State}
    {lexerState : Lexer.State} {parser : Parser}
    (corresponds : reader.Matches template state lexerState parser) :
    lexerState = state.lexerState := by
  cases corresponds <;> rfl

namespace Parser

variable {template : Text} {state : State} {lexer behind : Lexer} {parser fields : Parser}
  {token : Token} {failure : Failure}

/-- Wherever parsing gets, lexer and parser correspond to a reader. A token leads from one such
place to the next, and parsing ends with the others. -/
theorem Reaches.corresponds (reached : Reaches template state lexer parser) :
    ∃ reader rest position, lexer = .between state.lexerState rest position ∧
      Reader.Matches template reader state state.lexerState parser ∧
      Reader.Separated rest reader := by
  induction reached with
  | start => exact ⟨Reader.start, template, 0, rfl, .outside rfl rfl .nil, trivial⟩
  | step _ taken notError notEnd handled ih =>
      rcases ih with ⟨reader, rest, position, rfl, corresponds, separated⟩
      cases corresponds.turn separated position with
      | @taken text rest value type target _ _ _ _ made _ parsed _ follows ends =>
          rw [Lexer.next?_of_emit made] at taken
          cases taken
          rw [parsed] at handled
          cases handled
          have together := follows.lexerState_eq
          subst together
          rw [List.drop_left]
          exact ⟨target, rest, position + text.length, rfl, follows, ends⟩
      | refused made _ parsed _ =>
          rw [Lexer.next?_of_emit made] at taken
          cases taken
          rw [parsed] at handled
          cases handled
      | fault made _ =>
          rw [Lexer.next?_of_fail made] at taken
          cases taken
          exact absurd rfl notError
      | ended made raw _ _ =>
          rw [Lexer.next?_of_finish made] at taken
          cases taken
          exact absurd ⟨rfl, raw⟩ notEnd

/-- There is a token wherever parsing gets. -/
theorem Reaches.exists_next (reached : Reaches template state lexer parser) :
    ∃ token behind, lexer.next? = some (token, behind) := by
  rcases reached.corresponds with ⟨reader, rest, position, rfl, _, _⟩
  exact ⟨_, _, rfl⟩

theorem Reaches.inStep (reached : Reaches template state lexer parser)
    (arrives : lexer.next? = some (token, behind)) : InStep state parser.modifier token := by
  rcases reached.corresponds with ⟨reader, rest, position, rfl, corresponds, separated⟩
  have typed := Lexer.type_of_next? arrives
  have member := Lexer.tokenType_move state.lexerState rest
  rw [← typed] at member
  refine ⟨State.eq_raw_of_tokenTypes member, ?_, ?_, ?_, ?_, ?_⟩
  · intro operator
    rw [operator] at member
    exact State.eq_maybeOperator_of_tokenTypes member
  · intro length
    rw [length] at member
    exact State.eq_length_of_tokenTypes member
  · intro behindColon
    subst behindColon
    exact member
  · intro behindBrace
    subst behindBrace
    exact member
  · intro afterVariable name
    subst afterVariable
    rw [typed] at name
    cases corresponds with
    -- A name token is as long as it can be, so no other name token begins right behind it.
    | name =>
        rcases Lexer.isNameChar_of_tokenType name with ⟨point, first, isNameChar⟩
        rw [separated point first] at isNameChar
        cases isNameChar
    | digits => exact .inl ⟨_, rfl⟩
    | exploded => exact .inr rfl

/-- A token with which the parser fails is one that breaks the grammar, or the mark of a modifier
where a name has to stand. -/
theorem Reaches.failure_eq (reached : Reaches template state lexer parser)
    (arrives : lexer.next? = some (token, behind)) (plain : token.isTerminal = false)
    (failed : (handle state token).outcome parser = (.error failure, fields)) :
    (∃ cause position, failure = .rejected ⟨cause, position, template⟩) ∨
      state = .expression ∧ (token.type = .explode ∨ token.type = .colon) ∧
        failure = .undefinedState .expression token := by
  rcases reached.corresponds with ⟨reader, rest, position, rfl, corresponds, separated⟩
  cases corresponds.turn separated position with
  | taken _ made _ parsed _ _ _ =>
      rw [Lexer.next?_of_emit made] at arrives
      cases arrives
      rw [parsed] at failed
      cases failed
  | @refused rest value type width point halt next after made _ parsed stepped =>
      rw [Lexer.next?_of_emit made] at arrives
      cases arrives
      rw [parsed] at failed
      cases failed
      cases halt with
      | rejected cause position => exact .inl ⟨cause, position, rfl⟩
      | undefinedState other token =>
          rcases Reader.awaiting_of_undefinedState stepped with
            ⟨draft, path, mark, rfl, marks, rfl, rfl⟩
          cases corresponds
          refine .inr ⟨rfl, ?_⟩
          cases marks with
          | star =>
              rw [State.lexerState, Lexer.move_star] at made
              cases made
              exact ⟨.inl rfl, rfl⟩
          | colon =>
              rw [State.lexerState, Lexer.move_colon] at made
              cases made
              exact ⟨.inr rfl, rfl⟩
  | fault made _ =>
      rw [Lexer.next?_of_fail made] at arrives
      cases arrives
      cases plain
  | ended made _ _ _ =>
      rw [Lexer.next?_of_finish made] at arrives
      cases arrives
      cases plain

/-- What parsing gives is decided by the tokens to come, wherever it has got. -/
theorem Reaches.parse_eq (reached : Reaches template state lexer parser) :
    Template.parse template = result state lexer parser := by
  induction reached with
  | start =>
      rw [Template.parse, Parser.parse, Step.outcome_bind]
      rfl
  | step _ taken notError notEnd handled ih =>
      rw [ih, result, Lexer.tokens_of_next? taken, run_cons_of_ne notError notEnd,
        Step.outcome_bind, handled]
      rfl

/-- Parser and lexer stay in step on every template. Wherever parsing gets, the state of the lexer
is the one that goes with that of the parser, there is a token, and it is one that arrives in that
state; where it is no fault, the parser can fail with it only by rejecting the template or at the
mark of a modifier where a name has to stand. Parsing as a whole fails in no other way, and has no
rule for a token exactly if such a mark is there. -/
theorem lockstep (template : Text) :
    (∀ state lexer parser, Reaches template state lexer parser →
      Template.parse template = result state lexer parser ∧
      lexer.state = some state.lexerState ∧
      ∃ token behind, lexer.next? = some (token, behind) ∧ InStep state parser.modifier token ∧
        ∀ failure fields, token.isTerminal = false →
          (handle state token).outcome parser = (.error failure, fields) →
          (∃ cause position, failure = .rejected ⟨cause, position, template⟩) ∨
            state = .expression ∧ (token.type = .explode ∨ token.type = .colon) ∧
              failure = .undefinedState .expression token) ∧
    (∀ failure, Template.parse template = .error failure →
      (∃ cause position, failure = .rejected ⟨cause, position, template⟩) ∨
        ∃ token, failure = .undefinedState .expression token) ∧
    ∀ token, Template.parse template = .error (.undefinedState .expression token) ↔
      ∃ before mark type after, template = before ++ mark :: after ∧ NameExpected before ∧
        ModifierMark mark type ∧ token = ⟨type, [mark], before.length⟩ := by
  refine ⟨?_, ?_, ?_⟩
  · intro state lexer parser reached
    rcases reached.exists_next with ⟨token, behind, arrives⟩
    refine ⟨reached.parse_eq, ?_, token, behind, arrives, reached.inStep arrives, ?_⟩
    · rcases reached.corresponds with ⟨reader, rest, position, rfl, _, _⟩
      rfl
    · intro failure fields plain failed
      exact reached.failure_eq arrives plain failed
  · intro failure failed
    rcases Template.rejected_or_undefinedState failed with rejected | ⟨state, token, rfl⟩
    · exact .inl rejected
    · have inExpression := (Template.parse_eq_undefinedState_iff.mp failed).1
      subst inExpression
      exact .inr ⟨token, rfl⟩
  · intro token
    rw [Template.parse_eq_undefinedState_iff]
    exact and_iff_right rfl

/-- Behind a colon the digits of a length arrive. -/
theorem lockstep_length :
    Reaches "\x7ba:3\x7d" .length (.between .length "3\x7d" 3)
        ⟨"\x7ba:3\x7d", [], [], .simple, [], ["a"], none, 0⟩ ∧
      ∃ token behind, (Lexer.between .length "3\x7d" 3).next? = some (token, behind) ∧
        InStep .length none token := by
  have opened : Reaches "\x7ba:3\x7d" .maybeOperator (.between .beginExpression "a:3\x7d" 1)
      ⟨"\x7ba:3\x7d", [], [], .simple, [], [], none, 0⟩ :=
    Reaches.start.step rfl (by decide) (by decide) rfl
  have named : Reaches "\x7ba:3\x7d" .afterVariable (.between .inExpression ":3\x7d" 2)
      ⟨"\x7ba:3\x7d", [], [], .simple, [], ["a"], none, 0⟩ :=
    opened.step rfl (by decide) (by decide) rfl
  have reached : Reaches "\x7ba:3\x7d" .length (.between .length "3\x7d" 3)
      ⟨"\x7ba:3\x7d", [], [], .simple, [], ["a"], none, 0⟩ :=
    named.step rfl (by decide) (by decide) rfl
  rcases (lockstep "\x7ba:3\x7d").1 _ _ _ reached with ⟨_, _, token, behind, arrives, inStep, _⟩
  exact ⟨reached, token, behind, arrives, inStep⟩

end Parser

end UriTemplate
