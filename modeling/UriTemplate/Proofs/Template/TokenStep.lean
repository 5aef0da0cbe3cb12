import Mathlib.Data.List.TakeWhile
import UriTemplate.Proofs.Template.Reader

/-!
# Steps of the lexer and the parser

What the lexer hands out next is determined by its state and the rest of the template, and what
the parser does with a token by its state and its working fields. The lemmas here say both for
each kind of token, and how the result of parsing moves along from one token to the next.
-/

set_option autoImplicit false

namespace UriTemplate

/-! ## Tokens from a position -/

namespace Lexer

/-- A lexer between two tokens. -/
def between (state : State) (rest : Text) (position : Nat) : Lexer :=
  ⟨some state, rest, position, position⟩

variable {state following : State} {rest : Text} {position : Nat}

theorem next?_of_emit {type : TokenType} {value : Text} {width : Nat}
    (made : move state rest = .emit type value width following) :
    (between state rest position).next? =
      some (⟨type, value, position⟩,
        between following (rest.drop width) (position + width)) := by
  simp only [next?, between, Option.map_some, made, apply]

theorem next?_of_fail {fault : LexicalFault} {offset scanned : Nat}
    (made : move state rest = .fail fault offset scanned) :
    (between state rest position).next? =
      some (⟨.error, fault.message, (position + offset : Nat)⟩,
        ⟨none, rest, position, position + scanned⟩) := by
  simp only [next?, between, Option.map_some, made, apply]

theorem next?_of_finish (made : move state rest = .finish) :
    (between state rest position).next? =
      some (⟨.endOfInput, [], position⟩, ⟨none, rest, position, position⟩) := by
  simp only [next?, between, Option.map_some, made, apply]

theorem tokens_of_emit {type : TokenType} {value : Text} {width : Nat}
    (made : move state rest = .emit type value width following) :
    (between state rest position).tokens =
      ⟨type, value, position⟩ ::
        (between following (rest.drop width) (position + width)).tokens :=
  tokens_of_next? (next?_of_emit made)

theorem tokens_of_fail {fault : LexicalFault} {offset scanned : Nat}
    (made : move state rest = .fail fault offset scanned) :
    (between state rest position).tokens =
      [⟨.error, fault.message, (position + offset : Nat)⟩] := by
  rw [tokens_of_next? (next?_of_fail made)]
  exact congrArg _ (tokens_of_exhausted rfl)

theorem tokens_of_finish (made : move state rest = .finish) :
    (between state rest position).tokens = [⟨.endOfInput, [], position⟩] := by
  rw [tokens_of_next? (next?_of_finish made)]
  exact congrArg _ (tokens_of_exhausted rfl)

end Lexer

/-! ## Literal text -/

namespace Parser

/-- The pieces of a literal that the parser has not joined yet, and their bytes. -/
structure Pending (pieces : List Text) (bytes : List UInt8) : Prop where
  encodable : Utf8.encodable pieces.flatten = true
  encode_eq : Utf8.encode .strayBytes pieces.flatten = bytes
  ne_nil : ∀ piece ∈ pieces, piece ≠ []

namespace Pending

theorem nil : Pending [] [] := ⟨rfl, rfl, by simp⟩

variable {pieces : List Text} {bytes : List UInt8}

theorem push (pending : Pending pieces bytes) {piece : Text} (nonempty : piece ≠ [])
    (encodable : Utf8.encodable piece = true) :
    Pending (pieces ++ [piece]) (bytes ++ Utf8.encode .strayBytes piece) := by
  have before := pending.encodable
  refine ⟨?_, ?_, ?_⟩
  · rw [List.flatten_append, Utf8.encodable, List.all_append, Bool.and_eq_true]
    exact ⟨before, by simpa [Utf8.encodable] using encodable⟩
  · rw [List.flatten_append, Utf8.encode_append, pending.encode_eq]
    simp
  · intro other member
    rcases List.mem_append.mp member with inside | last
    · exact pending.ne_nil other inside
    · rw [List.mem_singleton.mp last]
      exact nonempty

/-- There are bytes as soon as there is a piece. -/
theorem eq_nil_iff (pending : Pending pieces bytes) : pieces = [] ↔ bytes = [] := by
  constructor
  · intro none
    rw [← pending.encode_eq, none]
    rfl
  · intro none
    cases pieces with
    | nil => rfl
    | cons piece rest =>
        have nonempty := pending.ne_nil piece (by simp)
        have encoded := pending.encode_eq
        rw [none, List.flatten_cons, Utf8.encode_append, List.append_eq_nil_iff] at encoded
        exact absurd (Utf8.eq_nil_of_encode_eq_nil encoded.1) nonempty

end Pending

/-- Joining the pending pieces adds the literal of their bytes. -/
theorem outcome_flushLiteral {parser : Parser} {bytes : List UInt8}
    (pending : Pending parser.literal bytes) :
    flushLiteral.outcome parser =
      (.ok (), { parser with parts := Reader.withLiteral parser.parts bytes, literal := [] }) := by
  simp only [flushLiteral, Step.outcome_bind, Step.outcome_get]
  by_cases none : parser.literal = []
  · have noBytes := pending.eq_nil_iff.mp none
    simp only [none, List.isEmpty_nil, if_true, Step.outcome_pure, noBytes, Reader.withLiteral]
    rw [← none]
  · have someBytes : bytes ≠ [] := by
      intro empty
      exact none (pending.eq_nil_iff.mpr empty)
    have noStretch := (Utf8.unencodable?_eq_none_iff _).mpr pending.encodable
    have notEmpty : parser.literal.isEmpty = false := by
      simpa using none
    simp only [notEmpty, Bool.false_eq_true, if_false, noStretch, Step.outcome_set,
      Reader.withLiteral, someBytes, Utf8.rejoin, pending.encode_eq]

theorem outcome_closeSeparator (parser : Parser) :
    closeSeparator.outcome parser =
      (.ok (), { parser with parts := Reader.withSeparator parser.parts }) := by
  simp only [closeSeparator, Step.outcome_modify, Reader.withSeparator]
  split <;> rfl

/-! ## Results -/

/-- What the parser makes of the tokens that a lexer has to hand out. -/
def result (state : State) (lexer : Lexer) (parser : Parser) : Except Failure Template :=
  ((run state lexer.tokens).outcome parser).1

variable {state following : State} {lexerState next : Lexer.State} {rest value : Text}
  {position width : Nat} {type : TokenType} {parser fields : Parser}

/-- A token is handled unless parsing ends with it. -/
theorem run_cons_of_ne {token : Token} {tokens : List Token} (notError : token.type ≠ .error)
    (notEnd : ¬(token.type = .endOfInput ∧ state = .raw)) :
    run state (token :: tokens) = handle state token >>= fun next => run next tokens := by
  rw [run, if_neg notError, if_neg notEnd]

/-- A token that is not the last one is handled. -/
theorem run_cons {place : Int} {tokens : List Token} (plain : type.isTerminal = false) :
    run state (⟨type, value, place⟩ :: tokens) =
      handle state ⟨type, value, place⟩ >>= fun next => run next tokens := by
  apply run_cons_of_ne
  · intro isError
    cases isError
    cases plain
  · intro ends
    cases ends.1
    cases plain

/-- A token that the parser takes leads to the tokens behind it. -/
theorem result_of_emit (made : Lexer.move lexerState rest = .emit type value width next)
    (plain : type.isTerminal = false)
    (handled : (handle state ⟨type, value, position⟩).outcome parser = (.ok following, fields)) :
    result state (.between lexerState rest position) parser =
      result following (.between next (rest.drop width) (position + width)) fields := by
  rw [result, Lexer.tokens_of_emit made, run_cons plain, Step.outcome_bind, handled]
  rfl

/-- A token that the parser does not take is the last. -/
theorem result_of_refused {failure : Failure}
    (made : Lexer.move lexerState rest = .emit type value width next)
    (plain : type.isTerminal = false)
    (handled : (handle state ⟨type, value, position⟩).outcome parser = (.error failure, fields)) :
    result state (.between lexerState rest position) parser = .error failure := by
  rw [result, Lexer.tokens_of_emit made, run_cons plain, Step.outcome_bind, handled]

/-- A fault of the lexer is passed on. -/
theorem result_of_fail {fault : LexicalFault} {offset scanned : Nat}
    (made : Lexer.move lexerState rest = .fail fault offset scanned) :
    result state (.between lexerState rest position) parser =
      .error ((Halt.lexical fault (position + offset)).failure parser.template) := by
  simp only [result, Lexer.tokens_of_fail made, run, if_true, reject, Step.outcome_bind,
    Step.outcome_get, Step.outcome_throw, Halt.lexical, Halt.failure]

/-- The end of a template outside expressions. -/
theorem result_of_finish {bytes : List UInt8} (made : Lexer.move lexerState rest = .finish)
    (pending : Pending parser.literal bytes) :
    result .raw (.between lexerState rest position) parser =
      .ok ⟨Reader.withLiteral parser.parts bytes⟩ := by
  simp only [result, Lexer.tokens_of_finish made, run, reduceCtorEq, if_false, and_self, if_true,
    Step.outcome_bind, outcome_flushLiteral pending, Step.outcome_get, Step.outcome_pure]

/-! ## Steps of the parser -/

variable {template : Text} {parts : List Part} {operator : Operator} {vars : List Variable}
  {path : List Text} {modifier : Option Modifier} {lengthDigits : Nat}

theorem handle_raw :
    (handle .raw ⟨.raw, value, position⟩).outcome parser =
      (.ok .raw, { parser with literal := parser.literal ++ [value] }) := rfl

theorem handle_separator {bytes : List UInt8} (pending : Pending parser.literal bytes) :
    (handle .raw ⟨.separator, value, position⟩).outcome parser =
      (.ok .raw, { parser with
        parts := Reader.withSeparator (Reader.withLiteral parser.parts bytes)
        literal := [] }) := by
  simp only [handle, handleRaw, Step.outcome_bind, outcome_flushLiteral pending,
    outcome_closeSeparator, Step.outcome_pure]

theorem handle_leftBrace {bytes : List UInt8} (pending : Pending parser.literal bytes) :
    (handle .raw ⟨.leftBrace, value, position⟩).outcome parser =
      (.ok .maybeOperator, ⟨parser.template, Reader.withLiteral parser.parts bytes, [], .simple,
        [], [], none, 0⟩) := by
  simp only [handle, handleRaw, Step.outcome_bind, outcome_flushLiteral pending,
    Step.outcome_modify, startVariable, Step.outcome_pure]

theorem handle_operator (known : Operator.ofSymbol? value = some operator) :
    (handle .maybeOperator ⟨.operator, value, position⟩).outcome parser =
      (.ok .expression, { parser with operator := operator }) := by
  simp only [handle, handleMaybeOperator, Operator.make, known, build, Step.outcome_bind,
    Step.outcome_pure, Step.outcome_modify]

theorem outcome_closeVariable (nonempty : path ≠ []) :
    closeVariable.outcome
        ⟨template, parts, [], operator, vars, path, modifier, lengthDigits⟩ =
      (.ok (), ⟨template, parts, [], operator, vars ++ [⟨path, modifier, nonempty⟩], [], none,
        0⟩) := by
  simp only [closeVariable, startVariable, build, Variable.make, nonempty, dif_neg,
    not_false_eq_true, Step.outcome_bind, Step.outcome_get, Step.outcome_pure,
    Step.outcome_modify]

theorem handle_rightBrace (nonempty : path ≠ []) :
    (handle .afterVariable ⟨.rightBrace, value, position⟩).outcome
        ⟨template, parts, [], operator, vars, path, modifier, lengthDigits⟩ =
      (.ok .raw, ⟨template,
        parts ++ [.expression ⟨operator, vars ++ [⟨path, modifier, nonempty⟩], by simp⟩], [],
        operator, vars ++ [⟨path, modifier, nonempty⟩], [], none, 0⟩) := by
  have someVars : vars ++ [⟨path, modifier, nonempty⟩] ≠ [] := by simp
  simp only [handle, handleAfterVariable, closeExpression, build, Expression.make, someVars,
    dif_neg, not_false_eq_true, Step.outcome_bind, outcome_closeVariable nonempty,
    Step.outcome_get, Step.outcome_pure, Step.outcome_modify]

theorem handle_comma (nonempty : path ≠ []) :
    (handle .afterVariable ⟨.comma, value, position⟩).outcome
        ⟨template, parts, [], operator, vars, path, modifier, lengthDigits⟩ =
      (.ok .expression, ⟨template, parts, [], operator, vars ++ [⟨path, modifier, nonempty⟩], [],
        none, 0⟩) := by
  simp only [handle, handleAfterVariable, Step.outcome_bind, Step.outcome_get,
    outcome_closeVariable nonempty, Step.outcome_pure]

theorem handle_length (isLength : value ≠ []) (digits : ∀ digit ∈ value, digit.isDigit = true)
    (short : value.length ≤ 4) {length : MaxLength}
    (spelled : length.value = Text.decimalValue value) :
    (handle .length ⟨.length, value, position⟩).outcome parser =
      (.ok .afterVariable, { parser with
        modifier := some (.maxLength length), lengthDigits := value.length }) := by
  have bounds : 0 ≤ (Text.decimalValue value : Int) ∧ (Text.decimalValue value : Int) ≤ 9999 := by
    have := length.value_le
    omega
  have made : MaxLength.make (Text.decimalValue value) = .ok length := by
    rw [MaxLength.make, dif_pos bounds]
    congr 1
    cases length
    simp_all
  have readable : value.length ≤ Text.digitLimit := Nat.le_trans short (by decide)
  simp only [handle, handleLength, Text.readInt_of_isDigit isLength digits readable, made, build,
    Step.outcome_bind, Step.outcome_pure, Step.outcome_modify]

theorem handle_colon :
    (handle .afterVariable ⟨.colon, value, position⟩).outcome
        ⟨template, parts, [], operator, vars, path, none, lengthDigits⟩ =
      (.ok .length, ⟨template, parts, [], operator, vars, path, none, lengthDigits⟩) := rfl

theorem handle_explode :
    (handle .afterVariable ⟨.explode, value, position⟩).outcome
        ⟨template, parts, [], operator, vars, path, none, lengthDigits⟩ =
      (.ok .afterVariable,
        ⟨template, parts, [], operator, vars, path, some .explode, lengthDigits⟩) := rfl

theorem handle_dot :
    (handle .afterVariable ⟨.dot, value, position⟩).outcome
        ⟨template, parts, [], operator, vars, path, none, lengthDigits⟩ =
      (.ok .expression, ⟨template, parts, [], operator, vars, path, none, lengthDigits⟩) := rfl

/-- The cause with which a token behind a modifier is refused. -/
def refusal : TokenType → ParseError.Cause
  | .colon | .explode => .doubleModifier
  | _ => .unexpectedAfterVariable

theorem handle_refused {known : Modifier}
    (refused : type = .dot ∨ type = .colon ∨ type = .explode) :
    (handle .afterVariable ⟨type, value, position⟩).outcome
        ⟨template, parts, [], operator, vars, path, some known, lengthDigits⟩ =
      (.error (.rejected ⟨refusal type, position, template⟩),
        ⟨template, parts, [], operator, vars, path, some known, lengthDigits⟩) := by
  rcases refused with rfl | rfl | rfl <;> rfl

theorem handle_extraName {known : Modifier} {point : CodePoint}
    (noDigit : ∀ length, known = .maxLength length → point.isAnyDigit = false) :
    (handle .afterVariable ⟨.name, point :: value, position⟩).outcome
        ⟨template, parts, [], operator, vars, path, some known, lengthDigits⟩ =
      (.error (.rejected ⟨.unexpectedAfterVariable, position, template⟩),
        ⟨template, parts, [], operator, vars, path, some known, lengthDigits⟩) := by
  cases known with
  | explode => rfl
  | maxLength length =>
      simp only [handle, handleAfterVariable, handleExtraName, noDigit length rfl, reject,
        Step.outcome_bind, Step.outcome_get, Step.outcome_throw, Bool.false_eq_true, if_false]

theorem handle_extraDigit {length : MaxLength} {point : CodePoint}
    (digit : point.isAnyDigit = true) :
    (handle .afterVariable ⟨.name, point :: value, position⟩).outcome
        ⟨template, parts, [], operator, vars, path, some (.maxLength length), lengthDigits⟩ =
      (.error (.rejected ⟨.lengthTooGreat, position - lengthDigits, template⟩),
        ⟨template, parts, [], operator, vars, path, some (.maxLength length), lengthDigits⟩) := by
  simp only [handle, handleAfterVariable, handleExtraName, digit, reject, Step.outcome_bind,
    Step.outcome_get, Step.outcome_throw, if_true]

end Parser

/-- The operators of the lexer are the symbols that the model knows. -/
theorem CodePoint.isOperator_eq_isSome (point : CodePoint) :
    point.isOperator = (Operator.ofSymbol? [point]).isSome := by
  rw [Bool.eq_iff_iff]
  constructor
  · intro symbol
    rcases List.any_eq_true.mp symbol with ⟨char, member, equal⟩
    have every : (['+', '#', '.', '/', ';', '?', '&'] : List Char).all fun char =>
        (Operator.ofSymbol? [ofChar char]).isSome := by
      decide
    rw [beq_iff_eq.mp equal]
    exact List.all_eq_true.mp every char member
  · intro known
    rcases Option.isSome_iff_exists.mp known with ⟨operator, found⟩
    have spelled : operator.symbol = [point] := by
      simpa using List.find?_some found
    cases operator with
    | simple => cases spelled
    | _ =>
      cases spelled
      decide

/-! ## Moves of the lexer -/

namespace Lexer

variable {point : CodePoint} {rest : Text}

theorem move_rightBrace :
    move .inExpression ('\x7d' :: rest) = .emit .rightBrace ['\x7d'] 1 .path := by
  simp [move, moveInExpression, emitPoint]

theorem move_dot : move .inExpression ('.' :: rest) = .emit .dot ['.'] 1 .inExpression := by
  simp [move, moveInExpression, emitPoint]

theorem move_comma : move .inExpression (',' :: rest) = .emit .comma [','] 1 .inExpression := by
  simp [move, moveInExpression, emitPoint]

theorem move_star :
    move .inExpression ('*' :: rest) = .emit .explode ['*'] 1 .inExpression := by
  have noName : (CodePoint.ofChar '*').isNameChar = false := by decide
  simp [move, moveInExpression, emitPoint, noName]

theorem move_colon : move .inExpression (':' :: rest) = .emit .colon [':'] 1 .length := by
  have noName : (CodePoint.ofChar ':').isNameChar = false := by decide
  simp [move, moveInExpression, emitPoint, noName]

/-- What a code point is inside an expression. -/
inductive Sign : CodePoint → Prop where
  | nameChar {point : CodePoint} : point.isNameChar = true → Sign point
  | rightBrace : Sign '\x7d'
  | dot : Sign '.'
  | comma : Sign ','
  | star : Sign '*'
  | colon : Sign ':'
  | other {point : CodePoint} : point.isNameChar = false → point ≠ '\x7d' → point ≠ '.' →
      point ≠ ',' → point ≠ '*' → point ≠ ':' → Sign point

theorem sign (point : CodePoint) : Sign point := by
  by_cases name : point.isNameChar
  · exact .nameChar name
  by_cases rightBrace : point = '\x7d'
  · exact rightBrace ▸ .rightBrace
  by_cases dot : point = '.'
  · exact dot ▸ .dot
  by_cases comma : point = ','
  · exact comma ▸ .comma
  by_cases star : point = '*'
  · exact star ▸ .star
  by_cases colon : point = ':'
  · exact colon ▸ .colon
  · exact .other (by simpa using name) rightBrace dot comma star colon

theorem ne_of_isNameChar {char : Char} (name : point.isNameChar = true)
    (noName : (CodePoint.ofChar char).isNameChar = false) : point ≠ char := by
  intro equal
  rw [equal, noName] at name
  cases name

theorem move_name (name : point.isNameChar = true) :
    move .inExpression (point :: rest) =
      .emit .name (point :: rest.takeWhile CodePoint.isNameChar)
        (rest.takeWhile CodePoint.isNameChar).length.succ .inExpression := by
  have rightBrace : point ≠ '\x7d' := ne_of_isNameChar name (by decide)
  have dot : point ≠ '.' := ne_of_isNameChar name (by decide)
  have comma : point ≠ ',' := ne_of_isNameChar name (by decide)
  simp [move, moveInExpression, rightBrace, dot, comma, name, emitRun]

theorem move_other (name : point.isNameChar = false) (rightBrace : point ≠ '\x7d')
    (dot : point ≠ '.') (comma : point ≠ ',') (star : point ≠ '*') (colon : point ≠ ':') :
    move .inExpression (point :: rest) = .fail (.unexpected point) 0 0 := by
  simp [move, moveInExpression, rightBrace, dot, comma, name, star, colon, failHere]

/-! ## Runs -/

theorem move_triplet {high low : CodePoint} {byte : UInt8}
    (spelled : high.hexByte? low = some byte) :
    move .path ('%' :: high :: low :: rest) = .emit .raw [.ofByte byte] 3 .path := by
  rcases Option.bind_eq_some_iff.mp spelled with ⟨highValue, highFound, spelled⟩
  rcases Option.map_eq_some_iff.mp spelled with ⟨lowValue, lowFound, rfl⟩
  have moved : move .path ('%' :: high :: low :: rest) = moveTriplet (high :: low :: rest) := rfl
  rw [moved, moveTriplet, highFound, lowFound]

theorem move_badTriplet {high low : CodePoint} (notSpelled : high.hexByte? low = none)
    (rest : Text) :
    move .path ('%' :: high :: low :: rest) =
      if high.isHexDigit then .fail (.illegalTriplet low) 2 0
      else .fail (.illegalTriplet high) 1 0 := by
  have moved : move .path ('%' :: high :: low :: rest) = moveTriplet (high :: low :: rest) := rfl
  rw [moved, moveTriplet, CodePoint.isHexDigit]
  rw [CodePoint.hexByte?] at notSpelled
  cases highFound : high.hexValue? with
  | none => rfl
  | some highValue =>
      rw [highFound, Option.bind_some, Option.map_eq_none_iff] at notSpelled
      rw [notSpelled]
      rfl

/-- A text begins with a longest run of code points that satisfy a condition. -/
theorem exists_run (accept : CodePoint → Bool) (text : Text) :
    ∃ run rest, text = run ++ rest ∧ (∀ point ∈ run, accept point = true) ∧
      ∀ point ∈ rest.head?, accept point = false := by
  refine ⟨text.takeWhile accept, text.dropWhile accept, ?_, ?_, ?_⟩
  · exact List.takeWhile_append_dropWhile.symm
  · intro point member
    exact List.mem_takeWhile_imp member
  · intro point first
    have notAccepted := List.head?_dropWhile_not accept text
    rw [Option.mem_def.mp first] at notAccepted
    simpa using notAccepted

theorem takeWhile_run {accept : CodePoint → Bool} {run : Text}
    (accepted : ∀ point ∈ run, accept point = true)
    (ended : ∀ point ∈ rest.head?, accept point = false) :
    (run ++ rest).takeWhile accept = run := by
  rw [List.takeWhile_append_of_pos accepted]
  cases rest with
  | nil => simp
  | cons point rest => simp [ended point rfl]

theorem dropWhile_run {accept : CodePoint → Bool} {run : Text}
    (accepted : ∀ point ∈ run, accept point = true)
    (ended : ∀ point ∈ rest.head?, accept point = false) :
    (run ++ rest).dropWhile accept = rest := by
  rw [List.dropWhile_append_of_pos accepted]
  cases rest with
  | nil => simp
  | cons point rest => simp [ended point rfl]

theorem move_path_of_endsLiteral_eq_false (inside : point.endsLiteral = false) :
    move .path (point :: rest) = moveLiteral (point :: rest) := by
  rcases CodePoint.endsLiteral_eq_false_iff.mp inside with ⟨slash, brace, percent⟩
  simp only [move, movePath, if_neg slash, if_neg percent, if_neg brace]

/-- A name is one token. -/
theorem move_names {run : Text} (nonempty : run ≠ [])
    (names : ∀ point ∈ run, point.isNameChar = true)
    (ended : ∀ point ∈ rest.head?, point.isNameChar = false) :
    move .inExpression (run ++ rest) = .emit .name run run.length .inExpression := by
  rcases List.exists_cons_of_ne_nil nonempty with ⟨point, run, rfl⟩
  have tail : ∀ other ∈ run, other.isNameChar = true := by
    intro other member
    exact names other (List.mem_cons_of_mem _ member)
  rw [List.cons_append, move_name (names point (by simp)), takeWhile_run tail ended]
  rfl

/-- A run of literal characters is one token if nothing illegal follows it. -/
theorem move_literals {run : Text} (nonempty : run ≠ [])
    (legal : ∀ point ∈ run, point.isLiteral = true)
    (ended : ∀ point ∈ rest.head?, point.isLiteral = false)
    (allowed : ∀ point ∈ rest.head?, point.endsLiteral = true) :
    move .path (run ++ rest) = .emit .raw run run.length .path := by
  rcases List.exists_cons_of_ne_nil nonempty with ⟨point, run, rfl⟩
  have inside := CodePoint.endsLiteral_of_isLiteral (legal point (by simp))
  rw [List.cons_append, move_path_of_endsLiteral_eq_false inside, ← List.cons_append, moveLiteral,
    emitRun, takeWhile_run legal ended, dropWhile_run legal ended]
  cases rest with
  | nil => rfl
  | cons other rest => simp [allowed other rfl]

/-- A run of literal characters is not handed out if something illegal follows it. -/
theorem move_illegal {run : Text} (legal : ∀ point ∈ run, point.isLiteral = true)
    (illegal : point.isLiteral = false) (inside : point.endsLiteral = false) :
    move .path (run ++ point :: rest) =
      .fail (.illegalCharacter point) run.length run.length := by
  have ended : ∀ other ∈ (point :: rest).head?, other.isLiteral = false := by
    intro other first
    cases first
    exact illegal
  have moved : move .path (run ++ point :: rest) = moveLiteral (run ++ point :: rest) := by
    cases run with
    | nil => exact move_path_of_endsLiteral_eq_false inside
    | cons first run =>
        exact move_path_of_endsLiteral_eq_false
          (CodePoint.endsLiteral_of_isLiteral (legal first (by simp)))
  rw [moved, moveLiteral, takeWhile_run legal ended, dropWhile_run legal ended]
  simp [inside]

/-- What literal text begins with: a longest run of literal characters with nothing illegal behind
it, or a run with an illegal character behind it. -/
inductive LiteralStart : Text → Prop where
  | literals {run rest : Text} : run ≠ [] → (∀ point ∈ run, point.isLiteral = true) →
      (∀ point ∈ rest.head?, point.isLiteral = false) →
      (∀ point ∈ rest.head?, point.endsLiteral = true) → LiteralStart (run ++ rest)
  | illegal {run rest : Text} {point : CodePoint} : (∀ other ∈ run, other.isLiteral = true) →
      point.isLiteral = false → point.endsLiteral = false → LiteralStart (run ++ point :: rest)

theorem literalStart (inside : point.endsLiteral = false) (rest : Text) :
    LiteralStart (point :: rest) := by
  rcases exists_run CodePoint.isLiteral (point :: rest) with ⟨run, after, split, legal, ended⟩
  by_cases illegal : ∃ other ∈ after.head?, other.endsLiteral = false
  · rcases illegal with ⟨other, first, otherInside⟩
    have otherIllegal := ended other first
    rcases List.head?_eq_some_iff.mp first with ⟨after, rfl⟩
    rw [split]
    exact .illegal legal otherIllegal otherInside
  · have allowed : ∀ other ∈ after.head?, other.endsLiteral = true := by
      intro other first
      by_contra notEnds
      exact illegal ⟨other, first, by simpa using notEnds⟩
    have nonempty : run ≠ [] := by
      intro empty
      rw [empty, List.nil_append] at split
      subst split
      have ends := allowed point rfl
      rw [inside] at ends
      cases ends
    rw [split]
    exact .literals nonempty legal ended allowed

/-! ## Moves behind a colon -/

/-- A text begins with a longest run of no more than a number of digits. -/
theorem exists_digitRun (count : Nat) (text : Text) :
    ∃ run rest, text = run ++ rest ∧ (text.take count).takeWhile CodePoint.isDigit = run ∧
      (∀ digit ∈ run, digit.isDigit = true) ∧ run.length ≤ count ∧
      (run.length < count → ∀ point ∈ rest.head?, point.isDigit = false) := by
  induction text generalizing count with
  | nil => exact ⟨[], [], rfl, by simp, by simp, by simp, by simp⟩
  | cons point text ih =>
      cases count with
      | zero => exact ⟨[], point :: text, rfl, rfl, by simp, by simp, by simp⟩
      | succ count =>
          by_cases digit : point.isDigit
          · rcases ih count with ⟨run, rest, split, taken, digits, short, ended⟩
            refine ⟨point :: run, rest, ?_, ?_, ?_, ?_, ?_⟩
            · rw [split, List.cons_append]
            · rw [List.take_succ_cons, List.takeWhile_cons_of_pos digit, taken]
            · intro other member
              rcases List.mem_cons.mp member with rfl | member
              · exact digit
              · exact digits other member
            · exact Nat.succ_le_succ short
            · intro room
              exact ended (Nat.lt_of_succ_lt_succ room)
          · refine ⟨[], point :: text, rfl, ?_, by simp, by simp, ?_⟩
            · rw [List.take_succ_cons, List.takeWhile_cons_of_neg digit]
            · intro room other first
              cases first
              simpa using digit

theorem move_missingLength
    (noDigit : (rest.take maxLengthDigits).takeWhile CodePoint.isDigit = []) :
    move .length rest = .fail .missingLength 0 0 := by
  simp only [move, moveLength, failHere]
  cases taken : rest.take maxLengthDigits with
  | nil => rfl
  | cons point more =>
      by_cases digit : point.isDigit
      · rw [taken, List.takeWhile_cons_of_pos digit] at noDigit
        cases noDigit
      · simp only [digit, Bool.false_eq_true, if_false]

theorem move_length {run : Text} (nonempty : run ≠ [])
    (taken : (rest.take maxLengthDigits).takeWhile CodePoint.isDigit = run) :
    move .length rest = .emit .length run run.length .inExpression := by
  simp only [move, moveLength]
  cases found : rest.take maxLengthDigits with
  | nil =>
      rw [found] at taken
      exact absurd taken.symm nonempty
  | cons point more =>
      by_cases digit : point.isDigit
      · rw [found] at taken
        simp only [digit, if_true, emitRun, taken]
      · rw [found, List.takeWhile_cons_of_neg digit] at taken
        exact absurd taken.symm nonempty

end Lexer

/-! ## Digits among the characters of names -/

namespace CodePoint

variable {point : CodePoint}

theorem isAnyDigit_of_isDigit (digit : point.isDigit = true) : point.isAnyDigit = true := by
  rw [isAnyDigit, decimalValue?_of_isDigit digit]
  rfl

/-- The digits among the characters of names are the ASCII digits. -/
theorem isAnyDigit_of_isNameChar (names : point.isNameChar = true)
    (noDigit : point.isDigit = false) : point.isAnyDigit = false := by
  have bounds : 0x3A ≤ point.toNat ∧ point.toNat < 0x80 := by
    simp only [isNameChar, isLetter, noDigit, Bool.or_false, Bool.or_eq_true, Bool.and_eq_true,
      decide_eq_true_eq, beq_iff_eq] at names
    rcases names with letter | rfl
    · omega
    · decide
  have noZero : point.decimalValue? = none := by
    rw [decimalValue?, Option.map_eq_none_iff, List.find?_eq_none]
    intro first member
    have far : ∀ first ∈ decimalZeros, first = 0x30 ∨ 0x80 ≤ first := by decide
    have apart := far first member
    simp only [Bool.and_eq_true, decide_eq_true_eq]
    omega
  have noOther : Stretch.anyCovers point.toNat otherDigits = false := by
    simp only [otherDigits, Stretch.anyCovers, Bool.or_eq_false_iff, Bool.and_eq_false_iff,
      decide_eq_false_iff_not]
    omega
  rw [isAnyDigit, noZero, noOther]
  rfl

end CodePoint

end UriTemplate
