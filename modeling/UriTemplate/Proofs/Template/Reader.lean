import UriTemplate.Template.Parser
import UriTemplate.Proofs.Except
import UriTemplate.Proofs.Percent.Unescape
import UriTemplate.Proofs.Text.Decimal

/-!
# Reading one code point at a time

The lexer and the parser are two machines in lock step, and a token may take up any number of
code points. A `Reader` is one machine that takes them one by one. Its state is the whole of
what matters for the rest of a template: how much has been read of the piece at hand, and what
has been put together before. Reading is therefore the same whether a template is read in one
go or in two.
-/

set_option autoImplicit false

namespace UriTemplate

namespace CodePoint

variable {point : CodePoint}

theorem endsLiteral_eq_false_iff :
    point.endsLiteral = false ↔ point ≠ '/' ∧ point ≠ '\x7b' ∧ point ≠ '%' := by
  simp only [endsLiteral, Bool.or_eq_false_iff, beq_eq_false_iff_ne, and_assoc]

theorem endsLiteral_of_isLiteral (legal : point.isLiteral = true) :
    point.endsLiteral = false := by
  simp only [isLiteral, Bool.and_eq_true, Bool.not_eq_true'] at legal
  exact legal.1

end CodePoint

/-- Why reading stops: something is wrong at a position, or the state of the parser does not
provide for a token. -/
inductive Halt where
  | rejected (cause : ParseError.Cause) (position : Int)
  | undefinedState (state : Parser.State) (token : Token)
  deriving DecidableEq, Repr

namespace Halt

/-- A lexical fault at a position. -/
def lexical (fault : LexicalFault) (position : Nat) : Halt :=
  .rejected (.lexical fault.message) position

/-- The failure of the parser on a given template. -/
def failure (template : Text) : Halt → Parser.Failure
  | rejected cause position => .rejected ⟨cause, position, template⟩
  | undefinedState state token => .undefinedState state token

end Halt

/-- The digits of a length that have been read. -/
structure LengthDigits where
  text : Text
  ne_nil : text ≠ []
  isDigit : ∀ digit ∈ text, digit.isDigit = true
  length_le : text.length ≤ 4
  deriving DecidableEq, Repr

namespace LengthDigits

/-- The length that the digits spell. -/
def maxLength (digits : LengthDigits) : MaxLength :=
  ⟨Text.decimalValue digits.text,
    Text.decimalValue_le_of_length_le digits.isDigit digits.length_le⟩

/-- The first digit of a length. -/
def single (digit : CodePoint) (isDigit : digit.isDigit = true) : LengthDigits where
  text := [digit]
  ne_nil := List.cons_ne_nil _ _
  isDigit := by
    intro other member
    rw [List.mem_singleton.mp member]
    exact isDigit
  length_le := by simp

/-- One more digit, if there is room for it. -/
def push (digits : LengthDigits) (digit : CodePoint) (isDigit : digit.isDigit = true)
    (room : digits.text.length < 4) : LengthDigits where
  text := digits.text ++ [digit]
  ne_nil := List.append_ne_nil_of_right_ne_nil _ (List.cons_ne_nil _ _)
  isDigit := by
    intro other member
    rcases List.mem_append.mp member with inside | last
    · exact digits.isDigit other inside
    · rw [List.mem_singleton.mp last]
      exact isDigit
  length_le := by
    rw [List.length_append]
    exact room

end LengthDigits

/-- What has been put together when a variable is read: the parts before the expression, the
operator, and the variables before this one. -/
structure Draft where
  parts : List Part
  operator : Operator
  vars : List Variable
  deriving DecidableEq, Repr

/-- Where a reader stands: outside expressions with the bytes of a literal, behind a percent
sign, behind one digit of a triplet, behind an opening brace, where a name has to begin, inside
a name, behind a colon, inside a length, or behind a star. -/
inductive Reader where
  | outside (parts : List Part) (literal : List UInt8)
  | percent (parts : List Part) (literal : List UInt8)
  | triplet (parts : List Part) (literal : List UInt8) (high : CodePoint)
  | opening (parts : List Part)
  | awaiting (draft : Draft) (path : List Text)
  | name (draft : Draft) (path : List Text) (text : Text)
  | colon (draft : Draft) (var : Variable)
  | digits (draft : Draft) (var : Variable) (digits : LengthDigits)
  | exploded (draft : Draft) (var : Variable)
  deriving DecidableEq, Repr

namespace Reader

/-- Parts with a literal of given bytes behind them, if there are any. -/
def withLiteral (parts : List Part) (literal : List UInt8) : List Part :=
  if literal = [] then parts else parts ++ [.literal (Utf8.decode .strayBytes literal)]

/-- Parts with a separator behind them. Separators in a row are one. -/
def withSeparator (parts : List Part) : List Part :=
  if parts.getLast? = some .separator then parts else parts ++ [.separator]

/-- A variable whose last name has been read. -/
def variableOf (path : List Text) (name : Text) : Variable :=
  ⟨path ++ [name], none, by simp⟩

/-- The reader behind the closing brace of an expression. -/
def close (draft : Draft) (var : Variable) : Reader :=
  .outside (draft.parts ++ [.expression ⟨draft.operator, draft.vars ++ [var], by simp⟩]) []

/-- The reader behind a comma. -/
def next (draft : Draft) (var : Variable) : Reader :=
  .awaiting { draft with vars := draft.vars ++ [var] } []

/-- A code point outside expressions. -/
def stepOutside (parts : List Part) (literal : List UInt8) (position : Nat)
    (point : CodePoint) : Except Halt Reader :=
  if point = '/' then .ok (.outside (withSeparator (withLiteral parts literal)) [])
  else if point = '%' then .ok (.percent parts literal)
  else if point = '\x7b' then .ok (.opening (withLiteral parts literal))
  else if point.isLiteral then
    .ok (.outside parts (literal ++ Utf8.encodePoint .strayBytes point))
  else .error (.lexical (.illegalCharacter point) position)

/-- The second digit of a triplet. It is only now that the first one is looked at, for a
template may end here, and that is a fault of its own. -/
def stepTriplet (parts : List Part) (literal : List UInt8) (high : CodePoint) (position : Nat)
    (low : CodePoint) : Except Halt Reader :=
  match high.hexByte? low with
  | some byte => .ok (.outside parts (literal ++ [byte]))
  | none =>
      if high.isHexDigit then .error (.lexical (.illegalTriplet low) position)
      else .error (.lexical (.illegalTriplet high) (position - 1))

/-- A code point behind an opening brace. -/
def stepOpening (parts : List Part) (position : Nat) (point : CodePoint) :
    Except Halt Reader :=
  if point = '\x7d' then .error (.lexical .emptyExpression position)
  else if point.isNameChar then .ok (.name ⟨parts, .simple, []⟩ [] [point])
  else match Operator.ofSymbol? [point] with
    | some operator => .ok (.awaiting ⟨parts, operator, []⟩ [])
    | none =>
        if point.isReservedOperator then .error (.lexical (.reservedOperator point) position)
        else .error (.lexical (.unexpected point) position)

/-- A code point where a name has to begin. -/
def stepAwaiting (draft : Draft) (path : List Text) (position : Nat) (point : CodePoint) :
    Except Halt Reader :=
  if point.isNameChar then .ok (.name draft path [point])
  else if point = '\x7d' ∨ point = '.' ∨ point = ',' then
    .error (.rejected .expectedVariable position)
  else if point = '*' then
    .error (.undefinedState .expression ⟨.explode, [point], position⟩)
  else if point = ':' then
    .error (.undefinedState .expression ⟨.colon, [point], position⟩)
  else .error (.lexical (.unexpected point) position)

/-- A code point inside a name. -/
def stepName (draft : Draft) (path : List Text) (text : Text) (position : Nat)
    (point : CodePoint) : Except Halt Reader :=
  if point.isNameChar then .ok (.name draft path (text ++ [point]))
  else if point = '\x7d' then .ok (close draft (variableOf path text))
  else if point = '.' then .ok (.awaiting draft (path ++ [text]))
  else if point = ',' then .ok (next draft (variableOf path text))
  else if point = '*' then
    .ok (.exploded draft { variableOf path text with modifier := some .explode })
  else if point = ':' then .ok (.colon draft (variableOf path text))
  else .error (.lexical (.unexpected point) position)

/-- A code point behind a colon. -/
def stepColon (draft : Draft) (var : Variable) (position : Nat) (point : CodePoint) :
    Except Halt Reader :=
  if digit : point.isDigit then .ok (.digits draft var (.single point digit))
  else .error (.lexical .missingLength position)

/-- A code point behind the modifier of a variable. -/
def stepModified (draft : Draft) (var : Variable) (position : Nat) (point : CodePoint) :
    Except Halt Reader :=
  if point.isNameChar then .error (.rejected .unexpectedAfterVariable position)
  else if point = '\x7d' then .ok (close draft var)
  else if point = '.' then .error (.rejected .unexpectedAfterVariable position)
  else if point = ',' then .ok (next draft var)
  else if point = '*' ∨ point = ':' then .error (.rejected .doubleModifier position)
  else .error (.lexical (.unexpected point) position)

/-- A variable with its length. -/
def withLength (var : Variable) (digits : LengthDigits) : Variable :=
  { var with modifier := some (.maxLength digits.maxLength) }

/-- A code point inside a length. A fifth digit makes the length too great, and the complaint
is about where it begins. -/
def stepDigits (draft : Draft) (var : Variable) (digits : LengthDigits) (position : Nat)
    (point : CodePoint) : Except Halt Reader :=
  if digit : point.isDigit then
    if room : digits.text.length < 4 then .ok (.digits draft var (digits.push point digit room))
    else .error (.rejected .lengthTooGreat ((position : Int) - digits.text.length))
  else stepModified draft (withLength var digits) position point

/-- Read the code point at a position. -/
def step (position : Nat) (point : CodePoint) : Reader → Except Halt Reader
  | outside parts literal => stepOutside parts literal position point
  | percent parts literal => .ok (.triplet parts literal point)
  | triplet parts literal high => stepTriplet parts literal high position point
  | opening parts => stepOpening parts position point
  | awaiting draft path => stepAwaiting draft path position point
  | name draft path text => stepName draft path text position point
  | colon draft var => stepColon draft var position point
  | digits draft var length => stepDigits draft var length position point
  | exploded draft var => stepModified draft var position point

/-- The end of a template of a given length. -/
def finish (length : Nat) : Reader → Except Halt Template
  | outside parts literal => .ok ⟨withLiteral parts literal⟩
  | percent _ _ => .error (.lexical .unfinishedTriplet (length - 1))
  | triplet _ _ _ => .error (.lexical .unfinishedTriplet (length - 2))
  | colon _ _ => .error (.lexical .missingLength length)
  | _ => .error (.lexical .unfinishedExpression length)

/-- Read a text that begins at a position. -/
def feed (reader : Reader) (position : Nat) : Text → Except Halt Reader
  | [] => .ok reader
  | point :: rest => (reader.step position point).bind fun reader =>
      reader.feed (position + 1) rest

/-- Read a text that begins at a position and ends the template. -/
def read (reader : Reader) (position : Nat) (text : Text) : Except Halt Template :=
  (reader.feed position text).bind (finish (position + text.length))

/-- A reader that has read nothing. -/
def start : Reader :=
  .outside [] []

@[simp] theorem feed_nil (reader : Reader) (position : Nat) :
    reader.feed position [] = .ok reader := rfl

theorem feed_cons (reader : Reader) (position : Nat) (point : CodePoint) (rest : Text) :
    reader.feed position (point :: rest) =
      (reader.step position point).bind fun reader => reader.feed (position + 1) rest := rfl

theorem feed_cons_of_step {reader following : Reader} {position : Nat} {point : CodePoint}
    (stepped : reader.step position point = .ok following) (rest : Text) :
    reader.feed position (point :: rest) = following.feed (position + 1) rest := by
  rw [feed_cons, stepped]
  rfl

/-- A text that is read begins with a step. -/
theorem exists_of_feed_cons {reader following : Reader} {position : Nat} {point : CodePoint}
    {rest : Text} (fed : reader.feed position (point :: rest) = .ok following) :
    ∃ there, reader.step position point = .ok there ∧
      there.feed (position + 1) rest = .ok following :=
  exceptBind_ok.mp fed

theorem feed_singleton (reader : Reader) (position : Nat) (point : CodePoint) :
    reader.feed position [point] = reader.step position point := by
  rw [feed_cons]
  cases reader.step position point <;> rfl

/-- Reading goes on where it stood. -/
theorem feed_append (reader : Reader) (position : Nat) (left right : Text) :
    reader.feed position (left ++ right) =
      (reader.feed position left).bind fun reader =>
        reader.feed (position + left.length) right := by
  induction left generalizing reader position with
  | nil => rfl
  | cons point left ih =>
      rw [List.cons_append, feed_cons, feed_cons]
      cases reader.step position point with
      | error halt => rfl
      | ok following =>
          have shifted : position + 1 + left.length = position + (point :: left).length := by
            rw [List.length_cons]
            omega
          simp only [Except.bind, ih, shifted]

theorem feed_append_of_feed {reader following : Reader} {position : Nat} {left : Text}
    (fed : reader.feed position left = .ok following) (right : Text) :
    reader.feed position (left ++ right) = following.feed (position + left.length) right := by
  rw [feed_append, fed]
  rfl

theorem read_nil (reader : Reader) (position : Nat) :
    reader.read position [] = reader.finish position := rfl

theorem read_cons (reader : Reader) (position : Nat) (point : CodePoint) (rest : Text) :
    reader.read position (point :: rest) =
      (reader.step position point).bind fun reader => reader.read (position + 1) rest := by
  rw [read, feed_cons]
  cases reader.step position point with
  | error halt => rfl
  | ok following =>
      have shifted : position + (point :: rest).length = position + 1 + rest.length := by
        rw [List.length_cons]
        omega
      rw [shifted]
      rfl

theorem read_cons_of_step {reader following : Reader} {position : Nat} {point : CodePoint}
    (stepped : reader.step position point = .ok following) (rest : Text) :
    reader.read position (point :: rest) = following.read (position + 1) rest := by
  rw [read_cons, stepped]
  rfl

theorem read_cons_of_error {reader : Reader} {position : Nat} {point : CodePoint} {halt : Halt}
    (stepped : reader.step position point = .error halt) (rest : Text) :
    reader.read position (point :: rest) = .error halt := by
  rw [read_cons, stepped]
  rfl

theorem read_append_of_feed {reader following : Reader} {position : Nat} {left : Text}
    (fed : reader.feed position left = .ok following) (right : Text) :
    reader.read position (left ++ right) = following.read (position + left.length) right := by
  rw [read, feed_append_of_feed fed, List.length_append, ← Nat.add_assoc]
  rfl

/-! ## Steps -/

/-- The steps of a reader that goes on: from where it stands, over a code point, to where it stands
then. -/
inductive Takes : Reader → CodePoint → Reader → Prop where
  | slash {parts : List Part} {bytes : List UInt8} : Takes (.outside parts bytes) '/'
      (.outside (withSeparator (withLiteral parts bytes)) [])
  | percent {parts : List Part} {bytes : List UInt8} :
      Takes (.outside parts bytes) '%' (.percent parts bytes)
  | brace {parts : List Part} {bytes : List UInt8} :
      Takes (.outside parts bytes) '\x7b' (.opening (withLiteral parts bytes))
  | literal {parts : List Part} {bytes : List UInt8} {point : CodePoint} :
      point.isLiteral = true → Takes (.outside parts bytes) point
        (.outside parts (bytes ++ Utf8.encodePoint .strayBytes point))
  | high {parts : List Part} {bytes : List UInt8} {point : CodePoint} :
      Takes (.percent parts bytes) point (.triplet parts bytes point)
  | low {parts : List Part} {bytes : List UInt8} {high point : CodePoint} {byte : UInt8} :
      high.hexByte? point = some byte →
      Takes (.triplet parts bytes high) point (.outside parts (bytes ++ [byte]))
  | simple {parts : List Part} {point : CodePoint} : point.isNameChar = true →
      Takes (.opening parts) point (.name ⟨parts, .simple, []⟩ [] [point])
  | operator {parts : List Part} {point : CodePoint} {operator : Operator} :
      operator.symbol = [point] →
      Takes (.opening parts) point (.awaiting ⟨parts, operator, []⟩ [])
  | nameBegins {draft : Draft} {path : List Text} {point : CodePoint} :
      point.isNameChar = true → Takes (.awaiting draft path) point (.name draft path [point])
  | nameGoesOn {draft : Draft} {path : List Text} {text : Text} {point : CodePoint} :
      point.isNameChar = true →
      Takes (.name draft path text) point (.name draft path (text ++ [point]))
  | nameCloses {draft : Draft} {path : List Text} {text : Text} :
      Takes (.name draft path text) '\x7d' (close draft (variableOf path text))
  | nameEnds {draft : Draft} {path : List Text} {text : Text} :
      Takes (.name draft path text) ',' (next draft (variableOf path text))
  | dot {draft : Draft} {path : List Text} {text : Text} :
      Takes (.name draft path text) '.' (.awaiting draft (path ++ [text]))
  | star {draft : Draft} {path : List Text} {text : Text} : Takes (.name draft path text) '*'
      (.exploded draft { variableOf path text with modifier := some .explode })
  | colon {draft : Draft} {path : List Text} {text : Text} :
      Takes (.name draft path text) ':' (.colon draft (variableOf path text))
  | lengthBegins {draft : Draft} {var : Variable} {point : CodePoint}
      (digit : point.isDigit = true) :
      Takes (.colon draft var) point (.digits draft var (.single point digit))
  | lengthGoesOn {draft : Draft} {var : Variable} {length : LengthDigits} {point : CodePoint}
      (digit : point.isDigit = true) (room : length.text.length < 4) :
      Takes (.digits draft var length) point (.digits draft var (length.push point digit room))
  | lengthCloses {draft : Draft} {var : Variable} {length : LengthDigits} :
      Takes (.digits draft var length) '\x7d' (close draft (withLength var length))
  | lengthEnds {draft : Draft} {var : Variable} {length : LengthDigits} :
      Takes (.digits draft var length) ',' (next draft (withLength var length))
  | starCloses {draft : Draft} {var : Variable} :
      Takes (.exploded draft var) '\x7d' (close draft var)
  | starEnds {draft : Draft} {var : Variable} :
      Takes (.exploded draft var) ',' (next draft var)

section Takes

variable {parts : List Part} {bytes : List UInt8} {draft : Draft} {path : List Text}
  {var : Variable} {position : Nat} {point : CodePoint} {following : Reader}

theorem takes_outside (stepped : stepOutside parts bytes position point = .ok following) :
    Takes (.outside parts bytes) point following := by
  simp only [stepOutside] at stepped
  split at stepped
  next slash =>
    cases stepped
    subst slash
    exact .slash
  split at stepped
  next percent =>
    cases stepped
    subst percent
    exact .percent
  split at stepped
  next brace =>
    cases stepped
    subst brace
    exact .brace
  split at stepped
  next legal =>
    cases stepped
    exact .literal legal
  next => cases stepped

theorem takes_triplet {high : CodePoint}
    (stepped : stepTriplet parts bytes high position point = .ok following) :
    Takes (.triplet parts bytes high) point following := by
  simp only [stepTriplet] at stepped
  split at stepped
  next byte spelled =>
    cases stepped
    exact .low spelled
  next => split at stepped <;> cases stepped

theorem takes_opening (stepped : stepOpening parts position point = .ok following) :
    Takes (.opening parts) point following := by
  simp only [stepOpening] at stepped
  split at stepped
  next => cases stepped
  split at stepped
  next names =>
    cases stepped
    exact .simple names
  split at stepped
  next operator known =>
    cases stepped
    have symbol : operator.symbol = [point] := by
      simpa using List.find?_some known
    exact .operator symbol
  next => split at stepped <;> cases stepped

theorem takes_awaiting (stepped : stepAwaiting draft path position point = .ok following) :
    Takes (.awaiting draft path) point following := by
  simp only [stepAwaiting] at stepped
  split at stepped
  next names =>
    cases stepped
    exact .nameBegins names
  next =>
    split at stepped
    · cases stepped
    split at stepped
    · cases stepped
    split at stepped <;> cases stepped

theorem takes_name {text : Text}
    (stepped : stepName draft path text position point = .ok following) :
    Takes (.name draft path text) point following := by
  simp only [stepName] at stepped
  split at stepped
  next names =>
    cases stepped
    exact .nameGoesOn names
  split at stepped
  next brace =>
    cases stepped
    subst brace
    exact .nameCloses
  split at stepped
  next dot =>
    cases stepped
    subst dot
    exact .dot
  split at stepped
  next comma =>
    cases stepped
    subst comma
    exact .nameEnds
  split at stepped
  next star =>
    cases stepped
    subst star
    exact .star
  split at stepped
  next colon =>
    cases stepped
    subst colon
    exact .colon
  next => cases stepped

theorem takes_colon (stepped : stepColon draft var position point = .ok following) :
    Takes (.colon draft var) point following := by
  simp only [stepColon] at stepped
  split at stepped
  next digit =>
    cases stepped
    exact .lengthBegins digit
  next => cases stepped

/-- Behind a modifier a reader takes what closes the variable. -/
theorem eq_of_stepModified (stepped : stepModified draft var position point = .ok following) :
    point = '\x7d' ∧ following = close draft var ∨ point = ',' ∧ following = next draft var := by
  simp only [stepModified] at stepped
  split at stepped
  next => cases stepped
  split at stepped
  next brace =>
    cases stepped
    exact .inl ⟨brace, rfl⟩
  split at stepped
  next => cases stepped
  split at stepped
  next comma =>
    cases stepped
    exact .inr ⟨comma, rfl⟩
  next => split at stepped <;> cases stepped

theorem takes_digits {length : LengthDigits}
    (stepped : stepDigits draft var length position point = .ok following) :
    Takes (.digits draft var length) point following := by
  simp only [stepDigits] at stepped
  split at stepped
  next digit =>
    split at stepped
    next room =>
      cases stepped
      exact .lengthGoesOn digit room
    next => cases stepped
  next =>
    rcases eq_of_stepModified stepped with ⟨rfl, rfl⟩ | ⟨rfl, rfl⟩
    · exact .lengthCloses
    · exact .lengthEnds

/-- A reader goes on by one of its steps only. -/
theorem takes_of_step {reader : Reader} (stepped : reader.step position point = .ok following) :
    Takes reader point following := by
  cases reader with
  | outside => exact takes_outside stepped
  | percent =>
      cases stepped
      exact .high
  | triplet => exact takes_triplet stepped
  | opening => exact takes_opening stepped
  | awaiting => exact takes_awaiting stepped
  | name => exact takes_name stepped
  | colon => exact takes_colon stepped
  | digits => exact takes_digits stepped
  | exploded =>
      rcases eq_of_stepModified stepped with ⟨rfl, rfl⟩ | ⟨rfl, rfl⟩
      · exact .starCloses
      · exact .starEnds

end Takes

/-! ## Runs -/

variable {parts : List Part} {bytes : List UInt8} {draft : Draft} {path : List Text}
  {var : Variable}

theorem step_outside_literal {point : CodePoint} (position : Nat)
    (legal : point.isLiteral = true) :
    (outside parts bytes).step position point =
      .ok (.outside parts (bytes ++ Utf8.encodePoint .strayBytes point)) := by
  have inside := CodePoint.endsLiteral_of_isLiteral legal
  rcases CodePoint.endsLiteral_eq_false_iff.mp inside with ⟨slash, brace, percent⟩
  simp only [step, stepOutside, if_neg slash, if_neg percent, if_neg brace, if_pos legal]

/-- Literal characters add their bytes to a literal. -/
theorem feed_literals (position : Nat) {run : Text}
    (legal : ∀ point ∈ run, point.isLiteral = true) :
    (outside parts bytes).feed position run =
      .ok (.outside parts (bytes ++ Utf8.encode .strayBytes run)) := by
  induction run generalizing bytes position with
  | nil => rw [feed_nil, Utf8.encode_nil, List.append_nil]
  | cons point run ih =>
      have head := legal point (by simp)
      rw [feed_cons_of_step (step_outside_literal position head),
        ih _ fun other member => legal other (by simp [member]),
        Utf8.encode_cons, List.append_assoc]

/-- The characters of a name add to it. -/
theorem feed_names (position : Nat) (text : Text) {run : Text}
    (names : ∀ point ∈ run, point.isNameChar = true) :
    (name draft path text).feed position run = .ok (.name draft path (text ++ run)) := by
  induction run generalizing text position with
  | nil => rw [feed_nil, List.append_nil]
  | cons point run ih =>
      have stepped : (name draft path text).step position point =
          .ok (.name draft path (text ++ [point])) := by
        rw [step, stepName, if_pos (names point (by simp))]
      rw [feed_cons_of_step stepped, ih _ _ fun other member => names other (by simp [member]),
        List.append_assoc]
      rfl

/-- The digits of a length add to it while there is room for them. -/
theorem feed_digits (position : Nat) {first last : LengthDigits} {run : Text}
    (spelled : last.text = first.text ++ run) :
    (digits draft var first).feed position run = .ok (.digits draft var last) := by
  induction run generalizing first position with
  | nil =>
      rw [List.append_nil] at spelled
      have same : last = first := by
        cases last
        cases first
        cases spelled
        rfl
      rw [feed_nil, same]
  | cons point run ih =>
      have digit : point.isDigit = true := by
        apply last.isDigit
        rw [spelled]
        simp
      have room : first.text.length < 4 := by
        have bound := last.length_le
        rw [spelled, List.length_append, List.length_cons] at bound
        omega
      have stepped : (digits draft var first).step position point =
          .ok (.digits draft var (first.push point digit room)) := by
        rw [step, stepDigits, dif_pos digit, dif_pos room]
      rw [feed_cons_of_step stepped]
      apply ih
      rw [LengthDigits.push, spelled, List.append_assoc]
      rfl

end Reader

end UriTemplate
