import Mathlib.Data.List.Chain
import UriTemplate.Proofs.Template.TokenStep

/-!
# The tokens of a template tile it

A move of the lexer hands out a lexeme, stops at a fault, or stops at the end. A lexeme covers
the text that the rest of the template begins with, and it is as long as it can be. The lexer goes
on right behind it, so the tokens of a template lie one behind the other without gaps, from the
beginning to the end or to where the lexer stands at the fault.
-/

set_option autoImplicit false

namespace UriTemplate

namespace Utf8

/-- No byte outside ASCII is a character on its own. -/
theorem decodePoint?_singleton {byte : UInt8} :
    0x80 ≤ byte.toNat → decodePoint? .strayBytes [byte] = none := by
  revert byte
  apply forall_byte
  decide +kernel

/-- The text of a byte on its own is the code point that the lexer has for it. -/
theorem decode_singleton (byte : UInt8) : decode .strayBytes [byte] = [.ofByte byte] := by
  by_cases ascii : byte.toNat < 0x80
  · rw [decode_of_some (decodePoint?_of_ascii _ ascii []), decode_nil, CodePoint.ofByte,
      if_pos ascii]
  · have stray := decodePoint?_singleton (Nat.not_lt.mp ascii)
    rw [decode_of_none stray, decode_nil, CodePoint.ofByte, if_neg ascii]

end Utf8

namespace Lexer

/-! ## Lexemes -/

/-- What the lexer can hand out in a state: the type of a token, the text that it covers, its
value, the rest of the template behind it, and the state there. -/
inductive Lexeme : State → TokenType → (text value rest : Text) → State → Prop where
  | separator {rest : Text} : Lexeme .path .separator ['/'] ['/'] rest .path
  | leftBrace {rest : Text} : Lexeme .path .leftBrace ['\x7b'] ['\x7b'] rest .beginExpression
  | triplet {high low : CodePoint} {byte : UInt8} {rest : Text} :
      high.hexByte? low = some byte →
      Lexeme .path .raw ['%', high, low] (Utf8.decode .strayBytes [byte]) rest .path
  | literals {run rest : Text} : run ≠ [] → (∀ point ∈ run, point.isLiteral = true) →
      (∀ point ∈ rest.head?, point.isLiteral = false) → Lexeme .path .raw run run rest .path
  | operator {point : CodePoint} {rest : Text} :
      Lexeme .beginExpression .operator [point] [point] rest .inExpression
  | name {state : State} {run rest : Text} : run ≠ [] →
      (∀ point ∈ run, point.isNameChar = true) →
      (∀ point ∈ rest.head?, point.isNameChar = false) →
      Lexeme state .name run run rest .inExpression
  | rightBrace {rest : Text} : Lexeme .inExpression .rightBrace ['\x7d'] ['\x7d'] rest .path
  | dot {rest : Text} : Lexeme .inExpression .dot ['.'] ['.'] rest .inExpression
  | comma {rest : Text} : Lexeme .inExpression .comma [','] [','] rest .inExpression
  | star {rest : Text} : Lexeme .inExpression .explode ['*'] ['*'] rest .inExpression
  | colon {rest : Text} : Lexeme .inExpression .colon [':'] [':'] rest .length
  | length {run rest : Text} : run ≠ [] →
      (run.length < maxLengthDigits → ∀ point ∈ rest.head?, point.isDigit = false) →
      Lexeme .length .length run run rest .inExpression

/-- The moves of the lexer in a state, at the rest of a template. -/
inductive Moves (state : State) : Text → Move → Prop where
  | lexeme {type : TokenType} {text value rest : Text} {following : State} :
      Lexeme state type text value rest following →
      Moves state (text ++ rest) (.emit type value text.length following)
  | fault {rest : Text} {fault : LexicalFault} {offset scanned : Nat} : offset ≤ rest.length →
      Moves state rest (.fail fault offset scanned)
  | finish : Moves state [] .finish

variable {point : CodePoint} {rest : Text} {state : State}

theorem moves_failHere (fault : LexicalFault) : Moves state rest (failHere fault) :=
  .fault (Nat.zero_le _)

theorem moves_triplet (rest : Text) : Moves .path ('%' :: rest) (move .path ('%' :: rest)) := by
  match rest with
  | [] => exact moves_failHere _
  | [high] => exact moves_failHere _
  | high :: low :: rest =>
      cases spelled : high.hexByte? low with
      | some byte =>
          rw [Lexer.move_triplet spelled, ← Utf8.decode_singleton]
          exact .lexeme (.triplet spelled)
      | none =>
          rw [move_badTriplet spelled]
          split
          · exact .fault (by simp)
          · exact .fault (by simp)

theorem moves_literal (inside : point.endsLiteral = false) :
    Moves .path (point :: rest) (move .path (point :: rest)) := by
  have begins := literalStart inside rest
  generalize point :: rest = text at begins ⊢
  cases begins with
  | literals nonempty legal ended allowed =>
      rw [move_literals nonempty legal ended allowed]
      exact .lexeme (.literals nonempty legal ended)
  | illegal legal otherIllegal otherInside =>
      rw [move_illegal legal otherIllegal otherInside]
      exact .fault (by simp)

theorem moves_path (rest : Text) : Moves .path rest (move .path rest) := by
  cases rest with
  | nil => exact .finish
  | cons point rest =>
      by_cases slash : point = '/'
      · subst slash
        exact .lexeme .separator
      by_cases brace : point = '\x7b'
      · subst brace
        exact .lexeme .leftBrace
      by_cases percent : point = '%'
      · subst percent
        exact moves_triplet rest
      · exact moves_literal (CodePoint.endsLiteral_eq_false_iff.mpr ⟨slash, brace, percent⟩)

/-- A name is handed out wherever the lexer takes one. -/
theorem moves_name (state : State) (names : point.isNameChar = true) :
    Moves state (point :: rest) (move .inExpression (point :: rest)) := by
  rcases exists_run CodePoint.isNameChar rest with ⟨run, after, rfl, tail, ended⟩
  have every : ∀ other ∈ point :: run, other.isNameChar = true := by
    intro other member
    rcases List.mem_cons.mp member with rfl | member
    · exact names
    · exact tail other member
  have nonempty : point :: run ≠ [] := List.cons_ne_nil _ _
  rw [← List.cons_append, move_names nonempty every ended]
  exact .lexeme (.name nonempty every ended)

theorem moves_inExpression (rest : Text) :
    Moves .inExpression rest (move .inExpression rest) := by
  cases rest with
  | nil => exact moves_failHere _
  | cons point rest =>
      cases sign point with
      | nameChar names => exact moves_name .inExpression names
      | rightBrace =>
          rw [move_rightBrace]
          exact .lexeme .rightBrace
      | dot =>
          rw [move_dot]
          exact .lexeme .dot
      | comma =>
          rw [move_comma]
          exact .lexeme .comma
      | star =>
          rw [move_star]
          exact .lexeme .star
      | colon =>
          rw [move_colon]
          exact .lexeme .colon
      | other names rightBrace dot comma star colon =>
          rw [move_other names rightBrace dot comma star colon]
          exact moves_failHere _

theorem moves_beginExpression (rest : Text) :
    Moves .beginExpression rest (move .beginExpression rest) := by
  cases rest with
  | nil => exact moves_failHere _
  | cons point rest =>
      simp only [move, moveBeginExpression]
      split
      · exact moves_failHere _
      split
      next names => exact moves_name .beginExpression names
      split
      · exact .lexeme .operator
      split
      · exact moves_failHere _
      · exact moves_failHere _

theorem moves_length (rest : Text) : Moves .length rest (move .length rest) := by
  obtain ⟨run, after, rfl, taken, _, _, ended⟩ := exists_digitRun maxLengthDigits rest
  by_cases empty : run = []
  · subst empty
    rw [move_missingLength taken]
    exact moves_failHere _
  · rw [move_length empty taken]
    exact .lexeme (.length empty ended)

/-- A move hands out a lexeme, stops inside the template, or stops at its end. -/
theorem moves_move (state : State) (rest : Text) : Moves state rest (move state rest) := by
  cases state with
  | path => exact moves_path rest
  | beginExpression => exact moves_beginExpression rest
  | inExpression => exact moves_inExpression rest
  | length => exact moves_length rest

end Lexer

/-! ## Tiles -/

/-- A token that is not the last one, with the text that it covers and the lexer behind it. -/
structure Tile where
  token : Token
  text : Text
  behind : Lexer

/-- What a token says of the text that it covers: a raw token at a percent sign has the text of
the byte that two digits spell, and any other token has the text itself. -/
inductive Token.Covers : Token → Text → Prop where
  | itself {type : TokenType} {text : Text} {position : Int} :
      ¬(type = .raw ∧ text.head? = some '%') → Covers ⟨type, text, position⟩ text
  | triplet {high low : CodePoint} {byte : UInt8} {position : Int} :
      high.hexByte? low = some byte →
      Covers ⟨.raw, Utf8.decode .strayBytes [byte], position⟩ ['%', high, low]

namespace Tile

/-- A tile in a template, behind some text: its token begins where that text ends and covers a
slice of the template, at the end of which the lexer stands. Where the token is a length that has
room for another digit, none follows. -/
structure LiesIn (tile : Tile) (template before : Text) : Prop where
  notLast : tile.token.isTerminal = false
  position : tile.token.position = before.length
  nonempty : tile.text ≠ []
  slice : template = before ++ (tile.text ++ tile.behind.rest)
  covers : tile.token.Covers tile.text
  start : tile.behind.start = before.length + tile.text.length
  pos : tile.behind.pos = before.length + tile.text.length
  length : tile.token.type = .length → tile.text.length < 4 →
    ∀ point ∈ tile.behind.rest.head?, point.isDigit = false

/-- Neighbours that could not be one token: two names never are, and of two raw tokens one is at
a percent sign. -/
structure Apart (first second : Tile) : Prop where
  names : ¬(first.token.type = .name ∧ second.token.type = .name)
  raws : first.token.type = .raw → second.token.type = .raw →
    first.text.head? = some '%' ∨ second.text.head? = some '%'

end Tile

namespace Lexer

/-- The tokens that a lexer hands out one after the other, and the lexer behind the last. -/
inductive HandsOut : Lexer → List Tile → Lexer → Prop where
  | nil {lexer : Lexer} : HandsOut lexer [] lexer
  | cons {lexer last : Lexer} {tile : Tile} {tiles : List Tile} :
      lexer.next? = some (tile.token, tile.behind) → HandsOut tile.behind tiles last →
      HandsOut lexer (tile :: tiles) last

/-- The tiles of lexemes one behind the other, from a lexer to another one. -/
inductive Lays : Lexer → List Tile → Lexer → Prop where
  | nil {lexer : Lexer} : Lays lexer [] lexer
  | cons {state following : State} {type : TokenType} {text value rest : Text} {position : Nat}
      {last : Lexer} {tiles : List Tile} :
      Lexeme state type text value rest following →
      move state (text ++ rest) = .emit type value text.length following →
      Lays (between following rest (position + text.length)) tiles last →
      Lays (between state (text ++ rest) position)
        (⟨⟨type, value, position⟩, text, between following rest (position + text.length)⟩ :: tiles)
        last

/-! ## One lexeme -/

namespace Lexeme

variable {state following after : State} {type other : TokenType}
  {text value rest more spelled behind : Text}

theorem ne_nil (lexeme : Lexeme state type text value rest following) : text ≠ [] := by
  cases lexeme with
  | literals nonempty _ _ => exact nonempty
  | name nonempty _ _ => exact nonempty
  | length nonempty _ => exact nonempty
  | _ => exact List.cons_ne_nil _ _

theorem isTerminal (lexeme : Lexeme state type text value rest following) :
    type.isTerminal = false := by
  cases lexeme <;> rfl

/-- No run of literal characters begins with a percent sign. -/
theorem head?_ne_percent {run : Text} (legal : ∀ point ∈ run, point.isLiteral = true) :
    run.head? ≠ some '%' := by
  intro first
  have percent := legal '%' (List.mem_of_mem_head? first)
  have noLiteral : (CodePoint.ofChar '%').isLiteral = false := by decide
  rw [noLiteral] at percent
  cases percent

theorem covers (lexeme : Lexeme state type text value rest following) (position : Int) :
    Token.Covers ⟨type, value, position⟩ text := by
  cases lexeme with
  | triplet spelled => exact .triplet spelled
  | literals _ legal _ => exact .itself fun percent => head?_ne_percent legal percent.2
  | _ => exact .itself fun percent => TokenType.noConfusion percent.1

/-- A length goes on up to its fourth digit. -/
theorem length_maximal (lexeme : Lexeme state type text value rest following)
    (isLength : type = .length) (room : text.length < 4) :
    ∀ point ∈ rest.head?, point.isDigit = false := by
  cases lexeme with
  | length _ ended => exact ended room
  | _ => cases isLength

/-- A run does not go on behind its end. -/
theorem not_run_of_ended {accept : CodePoint → Bool}
    (ended : ∀ point ∈ (text ++ rest).head?, accept point = false) (nonempty : text ≠ [])
    (accepted : ∀ point ∈ text, accept point = true) : False := by
  rcases List.exists_cons_of_ne_nil nonempty with ⟨point, run, rfl⟩
  have here := accepted point (by simp)
  rw [ended point rfl] at here
  cases here

/-- Behind a name there is no other name. -/
theorem not_name_name (first : Lexeme state .name text value (spelled ++ rest) following)
    (second : Lexeme following .name spelled more rest after) : False := by
  cases first with
  | name _ _ ended =>
      cases second with
      | name nonempty names _ => exact not_run_of_ended ended nonempty names

/-- Behind literal text there is literal text only if there is a percent sign. -/
theorem percent_of_raw_raw (first : Lexeme state .raw text value (spelled ++ rest) following)
    (second : Lexeme following .raw spelled more rest after) :
    text.head? = some '%' ∨ spelled.head? = some '%' := by
  cases first with
  | triplet _ => exact .inl rfl
  | literals _ _ ended =>
      cases second with
      | triplet _ => exact .inr rfl
      | literals nonempty legal _ => exact (not_run_of_ended ended nonempty legal).elim

end Lexeme

/-! ## A row of lexemes -/

namespace Lays

variable {lexer last : Lexer} {tiles : List Tile}

theorem handsOut (lays : Lays lexer tiles last) : HandsOut lexer tiles last := by
  induction lays with
  | nil => exact .nil
  | cons _ made _ ih =>
      apply HandsOut.cons _ ih
      rw [next?_of_emit made, List.drop_left]

theorem tokens_eq (lays : Lays lexer tiles last) :
    lexer.tokens = tiles.map Tile.token ++ last.tokens := by
  induction lays with
  | nil => rfl
  | cons _ made _ ih =>
      rw [tokens_of_emit made, List.drop_left, ih]
      rfl

/-- The tiles cover what lies between the two lexers. -/
theorem rest_eq (lays : Lays lexer tiles last) :
    lexer.rest = tiles.flatMap Tile.text ++ last.rest := by
  induction lays with
  | nil => rfl
  | cons _ _ _ ih =>
      rw [List.flatMap_cons, List.append_assoc, ← ih]
      rfl

theorem start_eq (lays : Lays lexer tiles last) :
    last.start = lexer.start + (tiles.flatMap Tile.text).length := by
  induction lays with
  | nil => rfl
  | cons _ _ _ ih =>
      rw [ih, List.flatMap_cons, List.length_append, ← Nat.add_assoc]
      rfl

theorem length_le (lays : Lays lexer tiles last) :
    tiles.length ≤ (tiles.flatMap Tile.text).length := by
  induction lays with
  | nil => exact Nat.le_refl _
  | cons lexeme _ _ ih =>
      have covered := List.length_pos_iff.mpr lexeme.ne_nil
      simp only [List.flatMap_cons, List.length_append, List.length_cons]
      omega

/-- Every tile lies where the tiles before it end, by induction on those. -/
theorem liesIn (lays : Lays lexer tiles last) {template seen : Text}
    (split : template = seen ++ lexer.rest) (start : lexer.start = seen.length)
    {before after : List Tile} {tile : Tile} (here : tiles = before ++ tile :: after) :
    tile.LiesIn template (seen ++ before.flatMap Tile.text) := by
  induction lays generalizing seen before with
  | nil => exact absurd here.symm (List.append_ne_nil_of_right_ne_nil _ (List.cons_ne_nil _ _))
  | @cons state following type text value rest position last tiles lexeme made behind ih =>
      have split : template = seen ++ (text ++ rest) := split
      have start : position = seen.length := start
      cases before with
      | nil =>
          cases here
          rw [List.flatMap_nil, List.append_nil]
          exact {
            notLast := lexeme.isTerminal
            position := congrArg _ start
            nonempty := lexeme.ne_nil
            slice := split
            covers := lexeme.covers _
            start := congrArg (· + text.length) start
            pos := congrArg (· + text.length) start
            length := lexeme.length_maximal }
      | cons first before =>
          cases here
          rw [List.flatMap_cons, ← List.append_assoc]
          apply ih _ _ rfl
          · rw [split, List.append_assoc]
            rfl
          · rw [List.length_append, ← start]
            rfl

/-- Neighbours are apart, since a run ends where it can go no further. -/
theorem apart (lays : Lays lexer tiles last) : tiles.IsChain Tile.Apart := by
  induction lays with
  | nil => exact .nil
  | cons first _ behind ih =>
      cases behind with
      | nil => exact .singleton _
      | cons second _ _ =>
          -- The first lexeme was cut off at a boundary; the second one begins on its other side.
          apply List.IsChain.cons_cons _ ih
          constructor
          · rintro ⟨rfl, rfl⟩
            exact first.not_name_name second
          · rintro rfl rfl
            exact first.percent_of_raw_raw second

end Lays

/-- From every place the lexer lays tiles up to a fault or to the end of the template, by induction
on the length of the rest. -/
theorem exists_lays (state : State) (rest : Text) (position : Nat) :
    ∃ tiles final there place,
      Lays (between state rest position) tiles (between final there place) ∧
      (move final there = .finish ∧ there = [] ∨
        ∃ fault offset scanned, move final there = .fail fault offset scanned ∧
          offset ≤ there.length) := by
  induction measure : rest.length using Nat.strong_induction_on
    generalizing state rest position with
  | _ length ih =>
      generalize made : move state rest = step
      have moves := moves_move state rest
      rw [made] at moves
      cases moves with
      | finish => exact ⟨[], state, [], position, .nil, .inl ⟨made, rfl⟩⟩
      | fault inside => exact ⟨[], state, rest, position, .nil, .inr ⟨_, _, _, made, inside⟩⟩
      | @lexeme type text value rest following lexeme =>
          have covered := List.length_pos_iff.mpr lexeme.ne_nil
          have shorter : rest.length < length := by
            rw [← measure, List.length_append]
            omega
          rcases ih _ shorter following rest (position + text.length) rfl with
            ⟨tiles, final, there, place, lays, stops⟩
          exact ⟨_, final, there, place, .cons lexeme made lays, stops⟩

end Lexer

/-! ## Whole templates -/

/-- How the tokens of a template end, behind the text that the others cover: at the end of the
template, or with an error in what they leave. The lexer begins no token behind where it stops. -/
inductive Ending (template covered : Text) (final : Token) (stopped : Nat) : Prop where
  | finish : final.type = .endOfInput → final.position = template.length → covered = template →
      Ending template covered final stopped
  | error : final.type = .error → covered = template.take stopped → stopped ≤ final.position →
      final.position ≤ template.length → Ending template covered final stopped

/-- The tokens of a template as tiles and a final token, behind which the lexer is exhausted. The
tiles lie one behind the other from the beginning of the template, as long as they can be. -/
structure Tiling (template : Text) (tiles : List Tile) (final : Token) (exhausted : Lexer) :
    Prop where
  tokens : tokenize template = tiles.map Tile.token ++ [final]
  count : (tokenize template).length ≤ template.length + 1
  handsOut : ∃ last, (Lexer.ofTemplate template).HandsOut tiles last ∧
    last.next? = some (final, exhausted)
  nothingElse : exhausted.next? = none
  liesIn : ∀ before tile after, tiles = before ++ tile :: after →
    tile.LiesIn template (before.flatMap Tile.text)
  apart : tiles.IsChain Tile.Apart
  ending : Ending template (tiles.flatMap Tile.text) final exhausted.start

/-- Tiles up to the last move of the lexer, which hands out the final token. -/
theorem Lexer.Lays.tiling {template : Text} {tiles : List Tile} {last exhausted : Lexer}
    {final : Token} (lays : (Lexer.ofTemplate template).Lays tiles last)
    (step : last.next? = some (final, exhausted)) (nothingElse : exhausted.next? = none)
    (ending : Ending template (tiles.flatMap Tile.text) final exhausted.start) :
    Tiling template tiles final exhausted := by
  have tokens : tokenize template = tiles.map Tile.token ++ [final] := by
    rw [tokenize, lays.tokens_eq, tokens_of_next? step, tokens_of_exhausted nothingElse]
  have covered : template = tiles.flatMap Tile.text ++ last.rest := lays.rest_eq
  have count : (tokenize template).length ≤ template.length + 1 := by
    have bound := lays.length_le
    rw [tokens, List.length_append, List.length_map, List.length_singleton, covered,
      List.length_append]
    omega
  refine ⟨tokens, count, ⟨last, lays.handsOut, step⟩, nothingElse, ?_, lays.apart, ending⟩
  intro before tile after here
  have whole : template = [] ++ (Lexer.ofTemplate template).rest := rfl
  exact lays.liesIn whole rfl here

/-- The tokens of every template tile it. -/
theorem tokenize_tiles (template : Text) :
    ∃ tiles final exhausted, Tiling template tiles final exhausted := by
  rcases Lexer.exists_lays .path template 0 with ⟨tiles, final, there, place, lays, stops⟩
  have covered : template = tiles.flatMap Tile.text ++ there := lays.rest_eq
  have start : place = (tiles.flatMap Tile.text).length := by
    rw [← Nat.zero_add (tiles.flatMap Tile.text).length]
    exact lays.start_eq
  rcases stops with ⟨made, rfl⟩ | ⟨fault, offset, scanned, made, inside⟩
  · rw [List.append_nil] at covered
    have position : (place : Int) = template.length := by
      rw [start, ← covered]
    exact ⟨tiles, _, _, lays.tiling (Lexer.next?_of_finish made) rfl
      (.finish rfl position covered.symm)⟩
  · have taken : template.take place = tiles.flatMap Tile.text := by
      rw [start, covered, List.take_left]
    have length : template.length = place + there.length := by
      rw [covered, List.length_append, start]
    have bound : ((place + offset : Nat) : Int) ≤ template.length := by
      rw [length]
      exact Int.ofNat_le.mpr (Nat.add_le_add_left inside _)
    exact ⟨tiles, _, _, lays.tiling (Lexer.next?_of_fail made) rfl
      (.error rfl taken.symm (Int.ofNat_le.mpr (Nat.le_add_right _ _)) bound)⟩

end UriTemplate
