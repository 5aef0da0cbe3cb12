import UriTemplate.Proofs.Template.TokenStep

/-!
# The reader agrees with the parser

Between two tokens the state of the lexer, the state of the parser and its working fields
correspond to a reader. A token leads from one such correspondence to the next, and the reader
gets there by taking the code points of the token one after the other. Where lexer or parser
fail the reader stops with the same failure. `Reader.Matches.turn` says so of one token, and by
induction reading agrees with `Template.parse` on every template.
-/

set_option autoImplicit false

namespace UriTemplate

open UriTemplate.Parser

/-- The states of parser and lexer and the working fields that a reader stands for. -/
inductive Reader.Matches (template : Text) :
    Reader → Parser.State → Lexer.State → Parser → Prop where
  | outside {parser : Parser} {parts : List Part} {literal : List UInt8} :
      parser.template = template → parser.parts = parts → Pending parser.literal literal →
      Matches template (.outside parts literal) .raw .path parser
  | opening {parts : List Part} {lengthDigits : Nat} :
      Matches template (.opening parts) .maybeOperator .beginExpression
        ⟨template, parts, [], .simple, [], [], none, lengthDigits⟩
  | awaiting {draft : Draft} {path : List Text} {lengthDigits : Nat} :
      Matches template (.awaiting draft path) .expression .inExpression
        ⟨template, draft.parts, [], draft.operator, draft.vars, path, none, lengthDigits⟩
  | name {draft : Draft} {path : List Text} {text : Text} {lengthDigits : Nat} :
      Matches template (.name draft path text) .afterVariable .inExpression
        ⟨template, draft.parts, [], draft.operator, draft.vars, path ++ [text], none,
          lengthDigits⟩
  | colon {draft : Draft} {var : Variable} {lengthDigits : Nat} :
      Matches template (.colon draft var) .length .length
        ⟨template, draft.parts, [], draft.operator, draft.vars, var.path, none, lengthDigits⟩
  | digits {draft : Draft} {var : Variable} {length : LengthDigits} :
      Matches template (.digits draft var length) .afterVariable .inExpression
        ⟨template, draft.parts, [], draft.operator, draft.vars, var.path,
          some (.maxLength length.maxLength), length.text.length⟩
  | exploded {draft : Draft} {var : Variable} {lengthDigits : Nat} :
      var.modifier = some .explode →
      Matches template (.exploded draft var) .afterVariable .inExpression
        ⟨template, draft.parts, [], draft.operator, draft.vars, var.path, some .explode,
          lengthDigits⟩

/-- Whether the token that a reader has read is at its end: a name goes on for as long as it
can, and a length up to its fourth digit. -/
def Reader.Separated (rest : Text) : Reader → Prop
  | .name _ _ _ => ∀ point ∈ rest.head?, point.isNameChar = false
  | .digits _ _ length => length.text.length < 4 → ∀ point ∈ rest.head?, point.isDigit = false
  | _ => True

/-- What the next token does where a reader corresponds to lexer and parser. Either all three
take it and correspond again, or the parser refuses it and the reader stops with the same
failure, or it is the last one: a fault of the lexer, at which the reader stops too, or the end
of a template. -/
inductive Reader.Turn (template : Text) (reader : Reader) (state : Parser.State)
    (lexerState : Lexer.State) (parser : Parser) (position : Nat) : Text → Prop where
  | taken {text rest value : Text} {type : TokenType} {target : Reader}
      {following : Parser.State} {next : Lexer.State} {fields : Parser} :
      text ≠ [] →
      Lexer.move lexerState (text ++ rest) = .emit type value text.length next →
      type.isTerminal = false →
      (handle state ⟨type, value, position⟩).outcome parser = (.ok following, fields) →
      reader.feed position text = .ok target →
      target.Matches template following next fields → target.Separated rest →
      Turn template reader state lexerState parser position (text ++ rest)
  | refused {rest value : Text} {type : TokenType} {width : Nat} {point : CodePoint}
      {halt : Halt} {next : Lexer.State} {fields : Parser} :
      Lexer.move lexerState (point :: rest) = .emit type value width next →
      type.isTerminal = false →
      (handle state ⟨type, value, position⟩).outcome parser =
        (.error (halt.failure template), fields) →
      reader.step position point = .error halt →
      Turn template reader state lexerState parser position (point :: rest)
  | fault {rest : Text} {fault : LexicalFault} {offset scanned : Nat} :
      Lexer.move lexerState rest = .fail fault offset scanned →
      reader.read position rest = .error (.lexical fault (position + offset)) →
      Turn template reader state lexerState parser position rest
  | ended {bytes : List UInt8} : Lexer.move lexerState [] = .finish → state = .raw →
      reader = .outside parser.parts bytes → Pending parser.literal bytes →
      Turn template reader state lexerState parser position []

/-- A token of one code point is taken in one step. -/
theorem Reader.Turn.point {template rest : Text} {reader target : Reader}
    {state following : Parser.State} {lexerState next : Lexer.State} {parser fields : Parser}
    {position : Nat} {type : TokenType} {point : CodePoint}
    (made : Lexer.move lexerState (point :: rest) = .emit type [point] 1 next)
    (plain : type.isTerminal = false)
    (handled : (handle state ⟨type, [point], position⟩).outcome parser = (.ok following, fields))
    (stepped : reader.step position point = .ok target)
    (corresponds : target.Matches template following next fields)
    (separated : target.Separated rest) :
    Turn template reader state lexerState parser position (point :: rest) := by
  have fed : reader.feed position [point] = .ok target := by
    rw [Reader.feed_singleton]
    exact stepped
  exact .taken (List.cons_ne_nil _ _) made plain handled fed corresponds separated

/-! ## Outside expressions -/

/-- The code point for a byte on its own has that byte. -/
theorem encodePoint_ofByte (byte : UInt8) :
    Utf8.encodePoint .strayBytes (.ofByte byte) = [byte] := by
  by_cases ascii : byte.toNat < 0x80
  · rw [CodePoint.ofByte, if_pos ascii, Utf8.encodePoint_of_ascii _ ascii, CodePoint.toNat_ofLatin,
      UInt8.ofNat_toNat]
  · rw [CodePoint.ofByte, if_neg ascii, Utf8.encodePoint_ofStrayByte (by omega)]

theorem isLoneSurrogate_ofByte (byte : UInt8) :
    (CodePoint.ofByte byte).isLoneSurrogate = false := by
  by_cases ascii : byte.toNat < 0x80
  · have character : (CodePoint.ofLatin byte).isSurrogate = false := by
      rw [Utf8.isSurrogate_eq_false_iff, CodePoint.toNat_ofLatin]
      omega
    rw [CodePoint.ofByte, if_pos ascii, CodePoint.isLoneSurrogate, character, Bool.false_and]
  · rw [CodePoint.ofByte, if_neg ascii, CodePoint.isLoneSurrogate,
      Utf8.strayByte?_ofStrayByte (by omega), Option.isNone_some, Bool.and_false]

/-- The byte of a triplet is one more piece. -/
theorem Parser.Pending.pushByte {pieces : List Text} {bytes : List UInt8}
    (pending : Pending pieces bytes) (byte : UInt8) :
    Pending (pieces ++ [[.ofByte byte]]) (bytes ++ [byte]) := by
  have nonempty : [CodePoint.ofByte byte] ≠ [] := by simp
  have encodable : Utf8.encodable [.ofByte byte] = true := by
    rw [Utf8.encodable, List.all_cons, isLoneSurrogate_ofByte]
    rfl
  have pushed := pending.push nonempty encodable
  rw [Utf8.encode_cons, encodePoint_ofByte, Utf8.encode_nil, List.append_nil] at pushed
  exact pushed

theorem encodable_of_isLiteral {run : Text} (legal : ∀ point ∈ run, point.isLiteral = true) :
    Utf8.encodable run = true := by
  rw [Utf8.encodable, List.all_eq_true]
  intro point member
  have allowed := legal point member
  simp only [CodePoint.isLiteral, CodePoint.isIllegalLiteral, Bool.and_eq_true,
    Bool.not_eq_true', Bool.or_eq_false_iff] at allowed
  rw [allowed.2.2]
  rfl

namespace Reader

variable {template rest : Text} {parser : Parser} {bytes : List UInt8} {position : Nat}

/-- The token at a percent sign. -/
theorem turn_triplet (same : parser.template = template) (pending : Pending parser.literal bytes) :
    Turn template (outside parser.parts bytes) .raw .path parser position ('%' :: rest) := by
  have percent : (outside parser.parts bytes).step position '%' =
      .ok (.percent parser.parts bytes) := rfl
  have moved : Lexer.move .path ('%' :: rest) = Lexer.moveTriplet rest := rfl
  match rest with
  | [] =>
      have made : Lexer.move .path ['%'] = .fail .unfinishedTriplet 0 0 := rfl
      apply Turn.fault made
      rw [read_cons_of_step percent, read_nil]
      rfl
  | [high] =>
      have made : Lexer.move .path ['%', high] = .fail .unfinishedTriplet 0 0 := rfl
      apply Turn.fault made
      rw [read_cons_of_step percent, read_cons_of_step rfl, read_nil]
      rfl
  | high :: low :: rest =>
      cases spelled : high.hexByte? low with
      | none =>
          have halted : (outside parser.parts bytes).read position ('%' :: high :: low :: rest) =
              (stepTriplet parser.parts bytes high (position + 1 + 1) low).bind fun reader =>
                reader.read (position + 1 + 1 + 1) rest := by
            rw [read_cons_of_step percent, read_cons_of_step rfl, read_cons]
            rfl
          rw [stepTriplet, spelled] at halted
          have made := Lexer.move_badTriplet spelled rest
          by_cases highDigit : high.isHexDigit
          · rw [if_pos highDigit] at made
            apply Turn.fault made
            simp only [halted, highDigit, if_true]
            rfl
          · rw [if_neg highDigit] at made
            apply Turn.fault made
            simp only [halted, highDigit, Bool.false_eq_true, if_false]
            rfl
      | some byte =>
          have fed : (outside parser.parts bytes).feed position [('%' : CodePoint), high, low] =
              .ok (.outside parser.parts (bytes ++ [byte])) := by
            rw [feed_cons_of_step percent, feed_cons_of_step rfl, feed_singleton]
            simp only [step, stepTriplet, spelled]
          exact .taken (by simp) (Lexer.move_triplet spelled) rfl handle_raw fed
            (.outside same rfl (pending.pushByte byte)) trivial

/-- The token at a literal character. -/
theorem turn_literal {point : CodePoint} (inside : point.endsLiteral = false)
    (same : parser.template = template) (pending : Pending parser.literal bytes) :
    Turn template (outside parser.parts bytes) .raw .path parser position (point :: rest) := by
  have fed {run : Text} (legal : ∀ point ∈ run, point.isLiteral = true) :
      (outside parser.parts bytes).feed position run =
        .ok (.outside parser.parts (bytes ++ Utf8.encode .strayBytes run)) :=
    feed_literals position legal
  have begins := Lexer.literalStart inside rest
  generalize point :: rest = text at begins ⊢
  cases begins with
  | literals nonempty legal ended allowed =>
      exact .taken nonempty (Lexer.move_literals nonempty legal ended allowed) rfl handle_raw
        (fed legal) (.outside same rfl (pending.push nonempty (encodable_of_isLiteral legal)))
        trivial
  | illegal legal otherIllegal otherInside =>
      apply Turn.fault (Lexer.move_illegal legal otherIllegal otherInside)
      rcases CodePoint.endsLiteral_eq_false_iff.mp otherInside with ⟨slash, brace, percent⟩
      rw [read_append_of_feed (fed legal), read_cons_of_error]
      simp only [step, stepOutside, if_neg slash, if_neg brace, if_neg percent, otherIllegal,
        Bool.false_eq_true, if_false]

theorem turn_outside (same : parser.template = template)
    (pending : Pending parser.literal bytes) :
    Turn template (outside parser.parts bytes) .raw .path parser position rest := by
  cases rest with
  | nil => exact .ended rfl rfl rfl pending
  | cons point rest =>
      by_cases slash : point = '/'
      · subst slash
        have stepped : (outside parser.parts bytes).step position '/' =
            .ok (.outside (withSeparator (withLiteral parser.parts bytes)) []) := rfl
        have made : Lexer.move .path ('/' :: rest) = .emit .separator ['/'] 1 .path := rfl
        exact .point made rfl (handle_separator pending) stepped (.outside same rfl .nil) trivial
      by_cases brace : point = '\x7b'
      · subst brace
        have stepped : (outside parser.parts bytes).step position '\x7b' =
            .ok (.opening (withLiteral parser.parts bytes)) := rfl
        have made : Lexer.move .path ('\x7b' :: rest) =
            .emit .leftBrace ['\x7b'] 1 .beginExpression := rfl
        subst same
        exact .point made rfl (handle_leftBrace pending) stepped .opening trivial
      by_cases percent : point = '%'
      · subst percent
        exact turn_triplet same pending
      · exact turn_literal (CodePoint.endsLiteral_eq_false_iff.mpr ⟨slash, brace, percent⟩) same
          pending

/-! ## Names -/

variable {state : State} {lexerState : Lexer.State} {reader : Reader} {draft : Draft}
  {path : List Text} {parts : List Part} {lengthDigits : Nat} {point : CodePoint}

/-- The token of a name, wherever a name may stand. -/
theorem turn_names (names : point.isNameChar = true)
    (moved : Lexer.move lexerState (point :: rest) = Lexer.move .inExpression (point :: rest))
    (handled : ∀ value, (handle state ⟨.name, value, position⟩).outcome parser =
      (.ok .afterVariable, ⟨template, draft.parts, [], draft.operator, draft.vars,
        path ++ [value], none, lengthDigits⟩))
    (stepped : reader.step position point = .ok (.name draft path [point])) :
    Turn template reader state lexerState parser position (point :: rest) := by
  rcases Lexer.exists_run CodePoint.isNameChar rest with ⟨run, after, rfl, tail, ended⟩
  have every : ∀ other ∈ point :: run, other.isNameChar = true := by
    intro other member
    rcases List.mem_cons.mp member with rfl | member
    · exact names
    · exact tail other member
  have fed : reader.feed position (point :: run) = .ok (.name draft path (point :: run)) := by
    rw [feed_cons_of_step stepped, feed_names _ _ tail]
    rfl
  rw [← List.cons_append] at moved ⊢
  have made := moved.trans (Lexer.move_names (by simp) every ended)
  exact .taken (by simp) made rfl (handled _) fed .name ended

theorem turn_opening :
    Turn template (opening parts) .maybeOperator .beginExpression
      ⟨template, parts, [], .simple, [], [], none, lengthDigits⟩ position rest := by
  cases rest with
  | nil =>
      have made : Lexer.move .beginExpression [] = .fail .unfinishedExpression 0 0 := rfl
      exact .fault made rfl
  | cons point rest =>
      by_cases brace : point = '\x7d'
      · have made : Lexer.move .beginExpression (point :: rest) = .fail .emptyExpression 0 0 := by
          simp only [Lexer.move, Lexer.moveBeginExpression, if_pos brace, Lexer.failHere]
        apply Turn.fault made
        rw [read_cons_of_error]
        rw [step, stepOpening, if_pos brace]
        rfl
      by_cases names : point.isNameChar
      · have stepped : (opening parts).step position point =
            .ok (.name ⟨parts, .simple, []⟩ [] [point]) := by
          rw [step, stepOpening, if_neg brace, if_pos names]
        have moved : Lexer.move .beginExpression (point :: rest) =
            Lexer.move .inExpression (point :: rest) := by
          simp only [Lexer.move, Lexer.moveBeginExpression, if_neg brace, if_pos names]
        exact turn_names names moved (fun _ => rfl) stepped
      have isOperator := point.isOperator_eq_isSome
      cases known : Operator.ofSymbol? [point] with
      | some operator =>
          rw [known, Option.isSome_some] at isOperator
          have made : Lexer.move .beginExpression (point :: rest) =
              .emit .operator [point] 1 .inExpression := by
            simp only [Lexer.move, Lexer.moveBeginExpression, if_neg brace, if_neg names,
              if_pos isOperator, Lexer.emitPoint]
          have stepped : (opening parts).step position point =
              .ok (.awaiting ⟨parts, operator, []⟩ []) := by
            rw [step, stepOpening, if_neg brace, if_neg names, known]
          exact .point made rfl (handle_operator known) stepped .awaiting trivial
      | none =>
          rw [known, Option.isSome_none] at isOperator
          have moved : Lexer.move .beginExpression (point :: rest) =
              if point.isReservedOperator then .fail (.reservedOperator point) 0 0
              else .fail (.unexpected point) 0 0 := by
            simp only [Lexer.move, Lexer.moveBeginExpression, if_neg brace, if_neg names,
              isOperator, Bool.false_eq_true, if_false, Lexer.failHere]
          have halted : (opening parts).step position point =
              if point.isReservedOperator then
                .error (.lexical (.reservedOperator point) position)
              else .error (.lexical (.unexpected point) position) := by
            rw [step, stepOpening, if_neg brace, if_neg names, known]
          by_cases reserved : point.isReservedOperator
          · rw [if_pos reserved] at moved halted
            exact .fault moved (read_cons_of_error halted rest)
          · rw [if_neg reserved] at moved halted
            exact .fault moved (read_cons_of_error halted rest)

theorem turn_awaiting :
    Turn template (awaiting draft path) .expression .inExpression
      ⟨template, draft.parts, [], draft.operator, draft.vars, path, none, lengthDigits⟩
      position rest := by
  cases rest with
  | nil =>
      have made : Lexer.move .inExpression [] = .fail .unfinishedExpression 0 0 := rfl
      exact .fault made rfl
  | cons point rest =>
      cases Lexer.sign point with
      | nameChar names =>
          have stepped : (awaiting draft path).step position point =
              .ok (.name draft path [point]) := by
            rw [step, stepAwaiting, if_pos names]
          exact turn_names names rfl (fun _ => rfl) stepped
      | rightBrace => exact .refused Lexer.move_rightBrace rfl rfl rfl
      | dot => exact .refused Lexer.move_dot rfl rfl rfl
      | comma => exact .refused Lexer.move_comma rfl rfl rfl
      | star => exact .refused Lexer.move_star rfl rfl rfl
      | colon => exact .refused Lexer.move_colon rfl rfl rfl
      | other names rightBrace dot comma star colon =>
          apply Turn.fault (Lexer.move_other names rightBrace dot comma star colon)
          rw [read_cons_of_error]
          simp only [step, stepAwaiting, names, rightBrace, dot, comma, star, colon,
            Bool.false_eq_true, if_false, or_self]
          rfl

/-! ## Behind a variable -/

theorem turn_name {text : Text}
    (ended : ∀ point ∈ rest.head?, point.isNameChar = false) :
    Turn template (name draft path text) .afterVariable .inExpression
      ⟨template, draft.parts, [], draft.operator, draft.vars, path ++ [text], none, lengthDigits⟩
      position rest := by
  have nonempty : path ++ [text] ≠ [] := by simp
  cases rest with
  | nil =>
      have made : Lexer.move .inExpression [] = .fail .unfinishedExpression 0 0 := rfl
      exact .fault made rfl
  | cons point rest =>
      cases Lexer.sign point with
      | nameChar names =>
          rw [ended point rfl] at names
          cases names
      | rightBrace =>
          have stepped : (name draft path text).step position '\x7d' =
              .ok (close draft (variableOf path text)) := rfl
          exact .point Lexer.move_rightBrace rfl (handle_rightBrace nonempty) stepped
            (.outside rfl rfl .nil) trivial
      | dot =>
          have stepped : (name draft path text).step position '.' =
              .ok (.awaiting draft (path ++ [text])) := rfl
          exact .point Lexer.move_dot rfl handle_dot stepped .awaiting trivial
      | comma =>
          have stepped : (name draft path text).step position ',' =
              .ok (next draft (variableOf path text)) := rfl
          exact .point Lexer.move_comma rfl (handle_comma nonempty) stepped .awaiting trivial
      | star =>
          have stepped : (name draft path text).step position '*' =
              .ok (.exploded draft { variableOf path text with modifier := some .explode }) := rfl
          exact .point Lexer.move_star rfl handle_explode stepped (.exploded rfl) trivial
      | colon =>
          have stepped : (name draft path text).step position ':' =
              .ok (.colon draft (variableOf path text)) := rfl
          exact .point Lexer.move_colon rfl handle_colon stepped .colon trivial
      | other names rightBrace dot comma star colon =>
          apply Turn.fault (Lexer.move_other names rightBrace dot comma star colon)
          rw [read_cons_of_error]
          simp only [step, stepName, names, rightBrace, dot, comma, star, colon,
            Bool.false_eq_true, if_false]
          rfl

/-- The token behind a modifier. A length is one only if no digit follows it. -/
theorem turn_modified {var : Variable} {known : Modifier}
    (modified : var.modifier = some known)
    (ended : ∀ point ∈ rest.head?, ∀ length, known = .maxLength length → point.isDigit = false)
    (stepped : ∀ point ∈ rest.head?,
      reader.step position point = stepModified draft var position point)
    (finished : reader.finish position = .error (.lexical .unfinishedExpression position)) :
    Turn template reader .afterVariable .inExpression
      ⟨template, draft.parts, [], draft.operator, draft.vars, var.path, some known, lengthDigits⟩
      position rest := by
  rcases var with ⟨path, modifier, nonempty⟩
  cases modified
  cases rest with
  | nil =>
      have made : Lexer.move .inExpression [] = .fail .unfinishedExpression 0 0 := rfl
      exact .fault made finished
  | cons point rest =>
      have taken := stepped point rfl
      cases Lexer.sign point with
      | nameChar names =>
          have noDigit : ∀ length, known = .maxLength length → point.isAnyDigit = false := by
            intro length limit
            exact CodePoint.isAnyDigit_of_isNameChar names (ended point rfl length limit)
          have halted : reader.step position point =
              .error (.rejected .unexpectedAfterVariable position) := by
            rw [taken, stepModified, if_pos names]
          exact .refused (Lexer.move_name names) rfl (handle_extraName noDigit) halted
      | rightBrace =>
          exact .point Lexer.move_rightBrace rfl (handle_rightBrace nonempty) taken
            (.outside rfl rfl .nil) trivial
      | dot => exact .refused Lexer.move_dot rfl (handle_refused (.inl rfl)) taken
      | comma =>
          exact .point Lexer.move_comma rfl (handle_comma nonempty) taken .awaiting trivial
      | star => exact .refused Lexer.move_star rfl (handle_refused (.inr (.inr rfl))) taken
      | colon => exact .refused Lexer.move_colon rfl (handle_refused (.inr (.inl rfl))) taken
      | other names rightBrace dot comma star colon =>
          apply Turn.fault (Lexer.move_other names rightBrace dot comma star colon)
          rw [read_cons_of_error]
          simp only [taken, stepModified, names, rightBrace, dot, comma, star, colon,
            Bool.false_eq_true, if_false, or_self]
          rfl

theorem turn_digits {var : Variable} {length : LengthDigits}
    (ended : length.text.length < 4 → ∀ point ∈ rest.head?, point.isDigit = false) :
    Turn template (digits draft var length) .afterVariable .inExpression
      ⟨template, draft.parts, [], draft.operator, draft.vars, var.path,
        some (.maxLength length.maxLength), length.text.length⟩
      position rest := by
  by_cases fifth : ∃ point ∈ rest.head?, point.isDigit = true
  · rcases fifth with ⟨point, first, digit⟩
    rcases List.head?_eq_some_iff.mp first with ⟨rest, rfl⟩
    have full : ¬length.text.length < 4 := by
      intro room
      rw [ended room point first] at digit
      cases digit
    have names : point.isNameChar = true := by
      rw [CodePoint.isNameChar, digit, Bool.or_true, Bool.true_or]
    have halted : (digits draft var length).step position point =
        .error (.rejected .lengthTooGreat ((position : Int) - length.text.length)) := by
      rw [step, stepDigits, dif_pos digit, dif_neg full]
    exact .refused (Lexer.move_name names) rfl
      (handle_extraDigit (CodePoint.isAnyDigit_of_isDigit digit)) halted
  · have noDigit : ∀ point ∈ rest.head?, ¬point.isDigit = true := by
      intro point first digit
      exact fifth ⟨point, first, digit⟩
    have modified : (withLength var length).modifier = some (.maxLength length.maxLength) := rfl
    apply turn_modified modified
    · intro point first _ _
      simpa using noDigit point first
    · intro point first
      rw [step, stepDigits, dif_neg (noDigit point first)]
    · rfl

theorem turn_colon {var : Variable} :
    Turn template (colon draft var) .length .length
      ⟨template, draft.parts, [], draft.operator, draft.vars, var.path, none, lengthDigits⟩
      position rest := by
  obtain ⟨run, after, rfl, taken, isDigit, short, ended⟩ :=
    Lexer.exists_digitRun Lexer.maxLengthDigits rest
  cases run with
  | nil =>
      have made := Lexer.move_missingLength taken
      apply Turn.fault made
      rw [List.nil_append]
      cases after with
      | nil => rfl
      | cons point after =>
          have noDigit := ended (by decide) point rfl
          rw [read_cons_of_error]
          simp only [step, stepColon, noDigit, Bool.false_eq_true, dif_neg, not_false_eq_true]
          rfl
  | cons point run =>
      have digit := isDigit point (by simp)
      have stepped : (colon draft var).step position point =
          .ok (.digits draft var (.single point digit)) := by
        rw [step, stepColon, dif_pos digit]
      have fed : (colon draft var).feed position (point :: run) =
          .ok (.digits draft var ⟨point :: run, List.cons_ne_nil _ _, isDigit, short⟩) := by
        rw [feed_cons_of_step stepped]
        exact feed_digits _ rfl
      exact .taken (by simp) (Lexer.move_length (by simp) taken) rfl
        (handle_length (by simp) isDigit short rfl) fed .digits ended

/-! ## Whole templates -/

/-- What the next token does, wherever a token ends. -/
theorem Matches.turn (corresponds : reader.Matches template state lexerState parser)
    (separated : reader.Separated rest) (position : Nat) :
    Turn template reader state lexerState parser position rest := by
  cases corresponds with
  | outside same parts pending =>
      subst parts
      exact turn_outside same pending
  | opening => exact turn_opening
  | awaiting => exact turn_awaiting
  | name => exact turn_name separated
  | colon => exact turn_colon
  | digits => exact turn_digits separated
  | exploded modified =>
      apply turn_modified modified
      · intro point rest member nothing
        cases nothing
      · intro point first
        rfl
      · rfl

theorem Matches.template_eq (corresponds : reader.Matches template state lexerState parser) :
    parser.template = template := by
  cases corresponds with
  | outside same => exact same
  | _ => rfl

/-- Reading the rest of a template gives the same result as parsing it, by induction on what is
left. -/
theorem Matches.result_eq_read (corresponds : reader.Matches template state lexerState parser)
    (separated : reader.Separated rest) (position : Nat) :
    result state (.between lexerState rest position) parser =
      (reader.read position rest).mapError (Halt.failure template) := by
  induction size : rest.length using Nat.strongRecOn generalizing
    rest reader state lexerState parser position with
  | ind size ih =>
      cases corresponds.turn separated position with
      | @taken text rest value type target following next fields nonempty made plain handled fed
          follows ends =>
          have shorter : rest.length < (text ++ rest).length := by
            have positive := List.length_pos_iff.mpr nonempty
            rw [List.length_append]
            omega
          rw [result_of_emit made plain handled, List.drop_left, read_append_of_feed fed]
          exact ih rest.length (size ▸ shorter) follows ends _ rfl
      | refused made plain handled stepped =>
          rw [result_of_refused made plain handled, read_cons_of_error stepped]
          rfl
      | fault made halted =>
          rw [result_of_fail made, halted, corresponds.template_eq]
          rfl
      | ended made raw outside pending =>
          subst raw outside
          rw [result_of_finish made pending]
          rfl

end Reader

namespace Template

/-- The parser reads a template as a reader does. -/
theorem parse_eq_read (template : Text) :
    parse template = (Reader.start.read 0 template).mapError (Halt.failure template) := by
  have corresponds : Reader.start.Matches template .raw .path (Parser.start template) :=
    .outside rfl rfl .nil
  have separated : Reader.start.Separated template := trivial
  rw [← corresponds.result_eq_read separated 0, parse, Parser.parse, Step.outcome_bind]
  rfl

end Template

end UriTemplate
