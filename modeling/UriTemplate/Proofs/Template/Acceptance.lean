import UriTemplate.Proofs.Template.Grammar
import UriTemplate.Proofs.Template.Simulation

/-!
# What the parser accepts

The parser accepts exactly the templates that the grammar derives, and the template that it
returns has the parts of the derivation.

A derivation leads a reader from piece to piece, and what the reader has put together are the
parts of the pieces so far. In the other direction each state of the reader has a language: the
texts that complete what has been read. A step of the reader goes from the language of one state
to that of the next, so a text that is read to the end is derived.
-/

set_option autoImplicit false

namespace UriTemplate

open Grammar

namespace Grammar

theorem carries_iff {point : CodePoint} : point.isLoneSurrogate = false ↔
    (point.isSurrogate = true → 0xDC80 ≤ point.toNat ∧ point.toNat ≤ 0xDCFF) := by
  rw [CodePoint.isLoneSurrogate, Bool.and_eq_false_iff, CodePoint.strayByte?]
  cases point.isSurrogate with
  | false => simp
  | true =>
      split
      next carried => simp [carried]
      next stray => simp [stray]

theorem mem_excluded_iff {point : CodePoint} : point ∈ excluded ↔
    point.endsLiteral = true ∨
      CodePoint.forbidden.any (fun char => point == CodePoint.ofChar char) = true := by
  have split : excluded =
      CodePoint.forbidden.map CodePoint.ofChar ++ (['/', '\x7b', '%'] : Text) := rfl
  rw [split, List.mem_append, List.mem_map, List.any_eq_true, or_comm]
  simp only [CodePoint.endsLiteral, List.mem_cons, List.not_mem_nil, or_false, Bool.or_eq_true,
    beq_iff_eq, or_assoc, @eq_comm _ point]

/-- A code point that stands for itself in the grammar is a literal character of the lexer. -/
theorem isLiteral_iff {point : CodePoint} : IsLiteral point ↔ point.isLiteral = true := by
  rw [IsLiteral, mem_excluded_iff, ← carries_iff]
  simp only [CodePoint.isLiteral, CodePoint.isIllegalLiteral, Bool.and_eq_true, Bool.not_eq_true',
    Bool.or_eq_false_iff, decide_eq_false_iff_not, not_or, Nat.not_le, Bool.not_eq_true]
  constructor
  · intro literal
    rcases literal with ⟨visible, ⟨inside, allowed⟩, carried⟩
    exact ⟨inside, ⟨visible, allowed⟩, carried⟩
  · intro literal
    rcases literal with ⟨inside, ⟨visible, allowed⟩, carried⟩
    exact ⟨visible, ⟨inside, allowed⟩, carried⟩

end Grammar

/-! ## Derived templates are accepted -/

/-- Variables begin with a name, and a name with one of its characters. -/
def Grammar.BeginsName (text : Text) : Prop :=
  ∃ point rest, text = point :: rest ∧ point.isNameChar = true

namespace Grammar

theorem BeginsName.append {text : Text} (begins : BeginsName text) (rest : Text) :
    BeginsName (text ++ rest) := by
  rcases begins with ⟨point, after, rfl, names⟩
  exact ⟨point, after ++ rest, rfl, names⟩

theorem IsName.begins {name : Text} (isName : IsName name) : BeginsName name := by
  rcases List.exists_cons_of_ne_nil isName.1 with ⟨point, run, rfl⟩
  exact ⟨point, run, rfl, isName.2 point (by simp)⟩

theorem PathText.begins {text : Text} {path : List Text} (derived : PathText text path) :
    BeginsName text := by
  cases derived with
  | single isName => exact isName.begins
  | dot isName _ => exact isName.begins.append _

theorem VariablesText.begins {text : Text} {vars : List Variable}
    (derived : VariablesText text vars) : BeginsName text := by
  cases derived with
  | single variableDerived =>
      rcases variableDerived with ⟨path, _⟩
      exact path.begins.append _
  | comma variableDerived _ =>
      rcases variableDerived with ⟨path, _⟩
      exact (path.begins.append _).append _

end Grammar

/-- What a reader has put together behind pieces: the parts of those that are closed, and the
bytes of the literal pieces at the end. -/
inductive Assembled : List Piece → List Part → List UInt8 → Prop where
  | mk (closed run : List Piece) : (∀ last ∈ closed.getLast?, last.isLiteral = false) →
      (∀ piece ∈ run, piece.isLiteral = true ∧ piece.bytes ≠ []) →
      Assembled (closed ++ run) (Piece.parts closed) (run.flatMap Piece.bytes)

namespace Assembled

variable {pieces : List Piece} {parts : List Part} {bytes : List UInt8}

/-- Pieces that do not end with a literal are closed. -/
theorem ofClosed (apart : ∀ last ∈ pieces.getLast?, last.isLiteral = false) :
    Assembled pieces (Piece.parts pieces) [] := by
  have made := mk pieces [] apart (by simp)
  rwa [List.append_nil, List.flatMap_nil] at made

theorem literal (assembled : Assembled pieces parts bytes) {more : List UInt8}
    (nonempty : more ≠ []) : Assembled (pieces ++ [.literal more]) parts (bytes ++ more) := by
  rcases assembled with ⟨before, run, apart, literals⟩
  have longer : ∀ piece ∈ run ++ [.literal more], piece.isLiteral = true ∧ piece.bytes ≠ [] := by
    intro piece member
    rcases List.mem_append.mp member with inside | last
    · exact literals piece inside
    · rw [List.mem_singleton.mp last]
      exact ⟨rfl, nonempty⟩
  have made := mk before (run ++ [.literal more]) apart longer
  rw [List.flatMap_append, List.flatMap_singleton, ← List.append_assoc] at made
  exact made

/-- With the literal at the end a reader has the parts of all pieces. -/
theorem withLiteral_eq (assembled : Assembled pieces parts bytes) :
    Reader.withLiteral parts bytes = Piece.parts pieces := by
  rcases assembled with ⟨before, run, apart, literals⟩
  cases run with
  | nil => rw [List.append_nil, List.flatMap_nil, Reader.withLiteral, if_pos rfl]
  | cons first run =>
      have someBytes : (first :: run).flatMap Piece.bytes ≠ [] := by
        intro empty
        rw [List.flatMap_cons, List.append_eq_nil_iff] at empty
        exact (literals first (by simp)).2 empty.1
      have isLiteral : ∀ piece ∈ first :: run, piece.isLiteral = true := by
        intro piece member
        exact (literals piece member).1
      have neighbours : ∀ last ∈ before.getLast?, ∀ piece ∈ (first :: run).head?,
          Piece.joins last piece = false := by
        intro last isLast piece isFirst
        cases isFirst
        exact Piece.joins_eq_false (apart last isLast) (isLiteral first (by simp))
      rw [Piece.parts_append neighbours, Piece.parts_literals (by simp) isLiteral,
        Reader.withLiteral, if_neg someBytes]

/-- A slash behind pieces. -/
theorem slash (assembled : Assembled pieces parts bytes) :
    Assembled (pieces ++ [.slash]) (Reader.withSeparator (Reader.withLiteral parts bytes)) [] := by
  have closed : ∀ last ∈ (pieces ++ [Piece.slash]).getLast?, last.isLiteral = false := by
    rw [List.getLast?_concat]
    intro last isLast
    cases isLast
    rfl
  rw [assembled.withLiteral_eq, Reader.withSeparator, ← Piece.parts_append_slash]
  exact ofClosed closed

/-- An expression behind pieces. -/
theorem expression (assembled : Assembled pieces parts bytes) (body : Expression) :
    Assembled (pieces ++ [.expression body])
      (Reader.withLiteral parts bytes ++ [.expression body]) [] := by
  have closed : ∀ last ∈ (pieces ++ [Piece.expression body]).getLast?,
      last.isLiteral = false := by
    rw [List.getLast?_concat]
    intro last isLast
    cases isLast
    rfl
  rw [assembled.withLiteral_eq, ← Piece.parts_append_expression]
  exact ofClosed closed

end Assembled

namespace Reader

/-- A reader at the end of a variable: it is ready for a brace and for a comma. -/
structure Ends (reader : Reader) (draft : Draft) (var : Variable) : Prop where
  step_brace : ∀ position, reader.step position '\x7d' = .ok (close draft var)
  step_comma : ∀ position, reader.step position ',' = .ok (next draft var)

variable {draft : Draft} {parts : List Part} {bytes : List UInt8}

/-- A name is read where one has to begin. -/
theorem feed_name (path : List Text) {name : Text} (isName : IsName name) (position : Nat) :
    (awaiting draft path).feed position name = .ok (.name draft path name) := by
  rcases isName with ⟨nonempty, names⟩
  rcases List.exists_cons_of_ne_nil nonempty with ⟨point, run, rfl⟩
  have stepped : (awaiting draft path).step position point = .ok (.name draft path [point]) := by
    rw [step, stepAwaiting, if_pos (names point (by simp))]
  rw [feed_cons_of_step stepped, feed_names _ _ fun other member => names other (by simp [member])]
  rfl

/-- Behind a path a reader stands inside its last name. -/
theorem feed_path (draft : Draft) (before : List Text) {text : Text} {path : List Text}
    (derived : PathText text path) (position : Nat) :
    ∃ init last, path = init ++ [last] ∧
      (awaiting draft before).feed position text = .ok (.name draft (before ++ init) last) := by
  induction derived generalizing before position with
  | @single name isName =>
      refine ⟨[], name, rfl, ?_⟩
      rw [feed_name before isName, List.append_nil]
  | @dot name rest path isName _ ih =>
      rcases ih (before ++ [name]) (position + name.length + 1) with ⟨init, last, rfl, fed⟩
      refine ⟨name :: init, last, rfl, ?_⟩
      have dotted : (Reader.name draft before name).step (position + name.length) '.' =
          .ok (.awaiting draft (before ++ [name])) := rfl
      rw [feed_append_of_feed (feed_name before isName position), feed_cons_of_step dotted, fed,
        List.append_assoc]
      rfl

/-- Behind a colon and digits a reader stands inside a length. -/
theorem feed_length (draft : Draft) (path : List Text) (name : Text) (length : LengthDigits)
    (position : Nat) : (Reader.name draft path name).feed position (':' :: length.text) =
      .ok (.digits draft (variableOf path name) length) := by
  rcases List.exists_cons_of_ne_nil length.ne_nil with ⟨point, run, spelled⟩
  have digit : point.isDigit = true := length.isDigit point (by simp [spelled])
  have colon : (Reader.name draft path name).step position ':' =
      .ok (.colon draft (variableOf path name)) := rfl
  have stepped : (Reader.colon draft (variableOf path name)).step (position + 1) point =
      .ok (.digits draft (variableOf path name) (.single point digit)) := by
    rw [step, stepColon, dif_pos digit]
  rw [spelled, feed_cons_of_step colon, feed_cons_of_step stepped]
  exact feed_digits _ spelled

/-- Behind a digit of a length its variable may end. -/
theorem ends_digits (draft : Draft) (var : Variable) (length : LengthDigits) :
    (Reader.digits draft var length).Ends draft (withLength var length) :=
  ⟨fun _ => rfl, fun _ => rfl⟩

/-- Behind a modifier the variable has it. -/
theorem feed_modifier (draft : Draft) (path : List Text) (name : Text) {text : Text}
    {modifier : Option Modifier} (derived : ModifierText text modifier) (position : Nat) :
    ∃ reader, (Reader.name draft path name).feed position text = .ok reader ∧
      reader.Ends draft ⟨path ++ [name], modifier, by simp⟩ := by
  cases derived with
  | none => exact ⟨_, rfl, fun _ => rfl, fun _ => rfl⟩
  | explode => exact ⟨_, rfl, fun _ => rfl, fun _ => rfl⟩
  | @maxLength digits length isLength spelled =>
      rcases isLength with ⟨nonempty, short, isDigit⟩
      let read : LengthDigits := ⟨digits, nonempty, isDigit, short⟩
      have sameLength : length = read.maxLength := by
        cases length
        cases spelled
        rfl
      refine ⟨_, feed_length draft path name read position, ?_⟩
      rw [sameLength]
      exact ends_digits draft (variableOf path name) read

theorem feed_variable (draft : Draft) {text : Text} {var : Variable}
    (derived : VariableText text var) (position : Nat) :
    ∃ reader, (awaiting draft []).feed position text = .ok reader ∧ reader.Ends draft var := by
  cases derived with
  | @mk pathText modifierText var pathDerived modifierDerived =>
      rcases feed_path draft [] pathDerived position with ⟨init, last, split, fed⟩
      obtain ⟨reader, after, ends⟩ :=
        feed_modifier draft init last modifierDerived (position + pathText.length)
      refine ⟨reader, ?_, ?_⟩
      · rw [feed_append_of_feed fed]
        exact after
      · rcases var with ⟨path, modifier, nonempty⟩
        cases split
        exact ends

/-- Behind variables the last one is at its end and the others are in the draft. -/
theorem feed_variables (draft : Draft) {text : Text} {vars : List Variable}
    (derived : VariablesText text vars) (position : Nat) :
    ∃ init last reader, vars = init ++ [last] ∧
      (awaiting draft []).feed position text = .ok reader ∧
      reader.Ends { draft with vars := draft.vars ++ init } last := by
  induction derived generalizing draft position with
  | @single text var variableDerived =>
      rcases feed_variable draft variableDerived position with ⟨reader, fed, ends⟩
      refine ⟨[], var, reader, rfl, fed, ?_⟩
      rw [List.append_nil]
      exact ends
  | @comma text rest var vars variableDerived _ ih =>
      rcases feed_variable draft variableDerived position with ⟨reader, fed, ends⟩
      obtain ⟨init, last, final, rfl, more, finalEnds⟩ :=
        ih { draft with vars := draft.vars ++ [var] } (position + text.length + 1)
      refine ⟨var :: init, last, final, rfl, ?_, ?_⟩
      · rw [feed_append_of_feed fed, feed_cons_of_step (ends.step_comma _)]
        exact more
      · rw [List.append_cons]
        exact finalEnds

/-- Behind the symbol of an operator, or behind the brace of simple expansion, a reader waits
for a name. -/
theorem feed_symbol (parts : List Part) (operator : Operator) {text : Text}
    (begins : BeginsName text) (position : Nat) :
    (opening parts).feed position (operator.symbol ++ text) =
      (awaiting ⟨parts, operator, []⟩ []).feed (position + operator.symbol.length) text := by
  rcases begins with ⟨point, rest, rfl, names⟩
  cases operator with
  | simple =>
      have brace : point ≠ '\x7d' := Lexer.ne_of_isNameChar names (by decide)
      have stepped : (opening parts).step position point =
          (awaiting ⟨parts, .simple, []⟩ []).step position point := by
        rw [step, stepOpening, if_neg brace, if_pos names, step, stepAwaiting, if_pos names]
      rw [Operator.symbol, List.nil_append, feed_cons, stepped]
      rfl
  | _ => rfl

/-- An expression is one more part. -/
theorem feed_expression {text : Text} {body : Expression} (derived : ExpressionText text body)
    (position : Nat) :
    (outside parts bytes).feed position text =
      .ok (.outside (withLiteral parts bytes ++ [.expression body]) []) := by
  cases derived with
  | @mk vars body derived =>
      rcases body with ⟨operator, list, nonempty⟩
      have opened : (outside parts bytes).step position '\x7b' =
          .ok (.opening (withLiteral parts bytes)) := rfl
      have symbol := feed_symbol (withLiteral parts bytes) operator
        (derived.begins.append (['\x7d'] : Text)) (position + 1)
      obtain ⟨init, last, reader, rfl, fed, ends⟩ :=
        feed_variables ⟨withLiteral parts bytes, operator, []⟩ derived
          (position + 1 + operator.symbol.length)
      rw [List.cons_append, feed_cons_of_step opened, symbol, feed_append_of_feed fed,
        feed_singleton, ends.step_brace]
      rfl

/-- A piece adds to what has been put together. -/
theorem feed_piece {pieces : List Piece} (assembled : Assembled pieces parts bytes) {text : Text}
    {piece : Piece} (derived : PieceText text piece) (position : Nat) :
    ∃ partsAfter bytesAfter,
      (outside parts bytes).feed position text = .ok (.outside partsAfter bytesAfter) ∧
      Assembled (pieces ++ [piece]) partsAfter bytesAfter := by
  cases derived with
  | @point point isLiteral =>
      refine ⟨_, _, ?_, assembled.literal (Utf8.encodePoint_ne_nil _ _)⟩
      rw [feed_singleton]
      exact step_outside_literal position (isLiteral_iff.mp isLiteral)
  | @triplet high low byte spelled =>
      have percent : (outside parts bytes).step position '%' = .ok (.percent parts bytes) := rfl
      have digit : (Reader.percent parts bytes).step (position + 1) high =
          .ok (.triplet parts bytes high) := rfl
      refine ⟨_, _, ?_, assembled.literal (List.cons_ne_nil byte [])⟩
      rw [feed_cons_of_step percent, feed_cons_of_step digit, feed_singleton, step, stepTriplet,
        spelled]
  | slash => exact ⟨_, _, rfl, assembled.slash⟩
  | expression derived => exact ⟨_, _, feed_expression derived position, assembled.expression _⟩

/-- A derived text is read to its end, by induction on the derivation. -/
theorem feed_derived {pieces more : List Piece} (assembled : Assembled pieces parts bytes)
    {text : Text} (derived : Derives text more) (position : Nat) :
    ∃ partsAfter bytesAfter,
      (outside parts bytes).feed position text = .ok (.outside partsAfter bytesAfter) ∧
      Assembled (pieces ++ more) partsAfter bytesAfter := by
  induction derived generalizing pieces parts bytes position with
  | nil => exact ⟨parts, bytes, rfl, by rwa [List.append_nil]⟩
  | @cons text rest piece more pieceDerived _ ih =>
      rcases feed_piece assembled pieceDerived position with ⟨partsThere, bytesThere, fed, there⟩
      rcases ih there (position + text.length) with ⟨partsAfter, bytesAfter, rest, after⟩
      refine ⟨partsAfter, bytesAfter, ?_, ?_⟩
      · rw [feed_append_of_feed fed, rest]
      · rw [List.append_cons]
        exact after

end Reader

/-- A derived template is accepted, and its parts are those of the derivation. -/
theorem Template.parse_of_derives {text : Text} {pieces : List Piece}
    (derived : Derives text pieces) : parse text = .ok ⟨Piece.parts pieces⟩ := by
  have start : Assembled [] [] [] := .ofClosed (by simp)
  rcases Reader.feed_derived start derived 0 with ⟨parts, bytes, fed, assembled⟩
  rw [List.nil_append] at assembled
  have finished : Reader.start.read 0 text = .ok ⟨Piece.parts pieces⟩ := by
    rw [← assembled.withLiteral_eq, Reader.read, Reader.start, fed]
    rfl
  rw [parse_eq_read, finished]
  rfl

/-! ## Accepted templates are derived -/

namespace Grammar

/-- What stands behind the operator of an expression: variables, the closing brace, and more of
the template. -/
def VariablesRest (rest : Text) : Prop :=
  ∃ text vars after, rest = text ++ ('\x7d' : CodePoint) :: after ∧ VariablesText text vars ∧
    Derivable after

/-- What stands behind a variable: the closing brace and more of the template, or a comma and
more variables. -/
def VariableRest (rest : Text) : Prop :=
  (∃ after, rest = ('\x7d' : CodePoint) :: after ∧ Derivable after) ∨
    ∃ after, rest = (',' : CodePoint) :: after ∧ VariablesRest after

variable {text rest name : Text} {point : CodePoint}

/-- A single character of names is a name. -/
theorem IsName.single (names : point.isNameChar = true) : IsName [point] := by
  refine ⟨List.cons_ne_nil _ _, ?_⟩
  intro other member
  rw [List.mem_singleton.mp member]
  exact names

theorem IsName.push (isName : IsName name) (names : point.isNameChar = true) :
    IsName (name ++ [point]) := by
  refine ⟨List.append_ne_nil_of_right_ne_nil _ (List.cons_ne_nil _ _), ?_⟩
  intro other member
  rcases List.mem_append.mp member with inside | last
  · exact isName.2 other inside
  · rw [List.mem_singleton.mp last]
    exact names

theorem VariablesText.ne_nil {vars : List Variable} (derived : VariablesText text vars) :
    vars ≠ [] := by
  cases derived <;> simp

theorem VariableText.followed {var : Variable} (derived : VariableText text var)
    (follows : VariableRest rest) : VariablesRest (text ++ rest) := by
  rcases follows with ⟨after, rfl, more⟩ | ⟨_, rfl, others, vars, after, rfl, list, more⟩
  · exact ⟨text, [var], after, rfl, .single derived, more⟩
  · refine ⟨text ++ (',' : CodePoint) :: others, var :: vars, after, ?_, .comma derived list, more⟩
    rw [List.append_assoc]
    rfl

/-- A variable of one name, with what stands behind it. -/
theorem IsName.followed (isName : IsName name) {modifier : Text} {known : Option Modifier}
    (modified : ModifierText modifier known) (follows : VariableRest rest) :
    VariablesRest (name ++ (modifier ++ rest)) := by
  have derived : VariableText (name ++ modifier) ⟨[name], known, by simp⟩ :=
    .mk (.single isName) modified
  rw [← List.append_assoc]
  exact derived.followed follows

/-- One more name in front of the path of a variable. -/
theorem VariableText.dotted {var : Variable} (derived : VariableText text var)
    (isName : IsName name) :
    VariableText (name ++ ('.' : CodePoint) :: text)
      ⟨name :: var.path, var.modifier, List.cons_ne_nil _ _⟩ := by
  cases derived with
  | @mk path modifier var pathDerived modifierDerived =>
      have longer : VariableText ((name ++ ('.' : CodePoint) :: path) ++ modifier)
          ⟨name :: var.path, var.modifier, List.cons_ne_nil _ _⟩ :=
        .mk (.dot isName pathDerived) modifierDerived
      rw [List.append_assoc] at longer
      exact longer

theorem VariablesRest.dotted (follows : VariablesRest rest) (isName : IsName name) :
    VariablesRest (name ++ ('.' : CodePoint) :: rest) := by
  rcases follows with ⟨text, vars, after, rfl, list, more⟩
  cases list with
  | single derived =>
      refine ⟨_, _, after, ?_, .single (derived.dotted isName), more⟩
      rw [List.append_assoc]
      rfl
  | comma derived others =>
      refine ⟨_, _, after, ?_, .comma (derived.dotted isName) others, more⟩
      simp only [List.append_assoc, List.cons_append]

end Grammar

theorem LengthDigits.isLength (length : LengthDigits) : IsLength length.text :=
  ⟨length.ne_nil, length.length_le, length.isDigit⟩

namespace Reader

/-- The texts that complete what a reader has read. Inside a name they do so for every name in
the place of the one that has been read so far. -/
def Completes : Reader → Text → Prop
  | outside _ _, rest => Derivable rest
  | percent _ _, rest => ∃ high low byte after, rest = high :: low :: after ∧
      high.hexByte? low = some byte ∧ Derivable after
  | triplet _ _ high, rest => ∃ low byte after, rest = low :: after ∧
      high.hexByte? low = some byte ∧ Derivable after
  | opening _, rest => ∃ operator after, rest = Operator.symbol operator ++ after ∧
      VariablesRest after
  | awaiting _ _, rest => VariablesRest rest
  | name _ _ _, rest => ∀ text, IsName text → VariablesRest (text ++ rest)
  | colon _ _, rest => ∃ digits after, rest = digits ++ after ∧ IsLength digits ∧
      VariableRest after
  | digits _ _ length, rest => ∃ more after, rest = more ++ after ∧
      IsLength (length.text ++ more) ∧ VariableRest after
  | exploded _ _, rest => VariableRest rest

variable {position : Nat} {point : CodePoint} {following : Reader} {rest : Text}

/-- What completes a reader behind a code point completes it before, with the code point in
front. -/
theorem completes_of_step {reader : Reader}
    (stepped : reader.step position point = .ok following)
    (completes : following.Completes rest) : reader.Completes (point :: rest) := by
  cases takes_of_step stepped with
  | slash => exact PieceText.slash.derivable.append completes
  | percent =>
      rcases completes with ⟨high, low, byte, after, rfl, spelled, more⟩
      exact (PieceText.triplet spelled).derivable.append more
  | brace =>
      rcases completes with ⟨operator, _, rfl, text, vars, after, rfl, list, more⟩
      have derived : ExpressionText _ ⟨operator, vars, list.ne_nil⟩ := .mk list
      have longer := (PieceText.expression derived).derivable.append more
      simpa [Completes] using longer
  | literal legal =>
      exact (PieceText.point (isLiteral_iff.mpr legal)).derivable.append completes
  | high =>
      rcases completes with ⟨low, byte, after, rfl, spelled, more⟩
      exact ⟨point, low, byte, after, rfl, spelled, more⟩
  | @low _ _ _ _ byte spelled => exact ⟨point, byte, rest, rfl, spelled, completes⟩
  | simple names => exact ⟨.simple, point :: rest, rfl, completes [point] (.single names)⟩
  | @operator _ _ operator symbol =>
      refine ⟨operator, rest, ?_, completes⟩
      rw [symbol]
      rfl
  | nameBegins names => exact completes [point] (.single names)
  | nameGoesOn names =>
      intro other isName
      rw [List.append_cons]
      exact completes _ (isName.push names)
  | nameCloses =>
      intro other isName
      exact isName.followed .none (.inl ⟨rest, rfl, completes⟩)
  | nameEnds =>
      intro other isName
      exact isName.followed .none (.inr ⟨rest, rfl, completes⟩)
  | dot =>
      intro other isName
      exact VariablesRest.dotted completes isName
  | star =>
      intro other isName
      exact isName.followed .explode completes
  | colon =>
      intro other isName
      rcases completes with ⟨digits, after, rfl, isLength, follows⟩
      have bounded : Text.decimalValue digits ≤ 9999 :=
        Text.decimalValue_le_of_length_le isLength.2.2 isLength.2.1
      have modified : ModifierText ((':' : CodePoint) :: digits)
          (some (.maxLength ⟨Text.decimalValue digits, bounded⟩)) := .maxLength isLength rfl
      exact isName.followed modified follows
  | lengthBegins =>
      rcases completes with ⟨more, after, rfl, isLength, follows⟩
      exact ⟨point :: more, after, rfl, isLength, follows⟩
  | lengthGoesOn =>
      rcases completes with ⟨more, after, rfl, isLength, follows⟩
      refine ⟨point :: more, after, rfl, ?_, follows⟩
      rw [List.append_cons]
      exact isLength
  | @lengthCloses _ _ length =>
      refine ⟨[], _, rfl, ?_, .inl ⟨rest, rfl, completes⟩⟩
      rw [List.append_nil]
      exact length.isLength
  | @lengthEnds _ _ length =>
      refine ⟨[], _, rfl, ?_, .inr ⟨rest, rfl, completes⟩⟩
      rw [List.append_nil]
      exact length.isLength
  | starCloses => exact .inl ⟨rest, rfl, completes⟩
  | starEnds => exact .inr ⟨rest, rfl, completes⟩

/-- What completes a reader behind a text completes it before, with the text in front. -/
theorem completes_of_feed {reader : Reader} {text : Text}
    (fed : reader.feed position text = .ok following) (completes : following.Completes rest) :
    reader.Completes (text ++ rest) := by
  induction text generalizing reader position with
  | nil =>
      cases fed
      exact completes
  | cons point text ih =>
      rcases exists_of_feed_cons fed with ⟨there, stepped, fed⟩
      exact completes_of_step stepped (ih fed)

/-- What a reader reads to the end of a template completes it. -/
theorem completes_of_read {reader : Reader} {text : Text} {template : Template}
    (read : reader.read position text = .ok template) : reader.Completes text := by
  rcases exceptBind_ok.mp read with ⟨last, fed, finished⟩
  have completes : last.Completes [] := by
    cases last with
    | outside => exact ⟨[], .nil⟩
    | _ => cases finished
  have whole := completes_of_feed fed completes
  rwa [List.append_nil] at whole

end Reader

/-- An accepted template is derived. -/
theorem Template.derivable_of_parse {text : Text} {template : Template}
    (parsed : parse text = .ok template) : Derivable text := by
  rw [parse_eq_read] at parsed
  cases read : Reader.start.read 0 text with
  | error halt =>
      rw [read] at parsed
      cases parsed
  | ok same => exact Reader.completes_of_read read

/-- The parser accepts the templates that the grammar derives and no others, and the parts of
the result are those of the derivation. -/
theorem Template.parse_eq_ok_iff_derives (text : Text) (template : Template) :
    parse text = .ok template ↔
      ∃ pieces, Derives text pieces ∧ template = ⟨Piece.parts pieces⟩ := by
  constructor
  · intro parsed
    rcases derivable_of_parse parsed with ⟨pieces, derived⟩
    rw [parse_of_derives derived] at parsed
    exact ⟨pieces, derived, (Except.ok.inj parsed).symm⟩
  · intro derivation
    rcases derivation with ⟨pieces, derived, rfl⟩
    exact parse_of_derives derived

end UriTemplate
