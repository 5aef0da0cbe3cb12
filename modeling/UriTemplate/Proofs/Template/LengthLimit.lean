import UriTemplate.Proofs.Template.LiteralRun

/-!
# How long a length may be

A length has at most four digits. Up to there it is the number that its digits spell, leading zeros
included. A fifth digit is one too many whatever number the digits spell, and the complaint is about
the first of them.

The limit does not depend on where the length stands. A template that is accepted with one length
behind a variable is accepted with any other of at most four digits, and the templates differ in
the modifier of that variable only.
-/

set_option autoImplicit false

namespace UriTemplate

open Grammar

/-- The place of a modifier in a template: the parts around its expression, the variables around its
variable, and the path in front of it. -/
structure ModifierSite where
  front : List Part
  operator : Operator
  vars : List Variable
  path : List Text
  path_ne_nil : path ≠ []
  more : List Variable
  back : List Part

namespace ModifierSite

/-- The variable with a given modifier. -/
def modified (site : ModifierSite) (modifier : Option Modifier) : Variable :=
  ⟨site.path, modifier, site.path_ne_nil⟩

/-- The template with a given modifier in its place. -/
def template (site : ModifierSite) (modifier : Option Modifier) : Template :=
  ⟨site.front ++
    .expression ⟨site.operator, site.vars ++ site.modified modifier :: site.more, by simp⟩ ::
      site.back⟩

/-- The template that ends in front of the modifier, with its last expression closed there. -/
def closedBefore (site : ModifierSite) : Template :=
  ⟨site.front ++ [.expression ⟨site.operator, site.vars ++ [site.modified none], by simp⟩]⟩

end ModifierSite

/-- A text with digits behind a colon. -/
def withDigits (before digits after : Text) : Text :=
  before ++ (':' : CodePoint) :: digits ++ after

namespace Reader

variable {reader there following : Reader} {position : Nat} {text : Text} {parts : List Part}
  {bytes : List UInt8} {draft : Draft} {var : Variable}

/-- Where a reader is outside expressions, none is open. -/
theorem closed_of_feed (fed : start.feed position text = .ok (.outside parts bytes)) :
    Closed text := by
  have completes : (Reader.outside parts bytes).Completes [] := ⟨[], .nil⟩
  have whole : Derivable (text ++ []) := completes_of_feed fed completes
  rw [List.append_nil] at whole
  exact whole.closed

/-- A colon in front of a digit stands behind a name, or it is literal text. In particular it is no
digit of a triplet. -/
theorem name_or_outside_of_colon {point digit : CodePoint} (colon : point = ':')
    (first : reader.step position point = .ok there)
    (second : there.step (position + 1) digit = .ok following) :
    (∃ draft path name, reader = .name draft path name) ∨
      ∃ parts bytes, reader = .outside parts bytes := by
  have noHexDigit : ¬point.hexValue? ≠ none := by
    rw [colon]
    decide
  have noName : ¬point.isNameChar = true := by
    rw [colon]
    decide
  have noDigit : ¬point.isDigit = true := by
    rw [colon]
    decide
  have takes := takes_of_step first
  cases reader with
  | outside => exact .inr ⟨_, _, rfl⟩
  | name => exact .inl ⟨_, _, _, rfl⟩
  | percent =>
      cases takes with
      | high =>
          cases takes_of_step second with
          | low digits => exact absurd (hexValue?_of_hexByte? digits).1 noHexDigit
  | triplet =>
      cases takes with
      | low digits => exact absurd (hexValue?_of_hexByte? digits).2 noHexDigit
  | opening =>
      cases takes with
      | simple names => exact absurd names noName
      | @operator _ _ operator symbol =>
          rw [colon] at symbol
          cases operator <;> exact absurd symbol (by decide)
  | awaiting =>
      cases takes with
      | nameBegins names => exact absurd names noName
  | colon =>
      cases takes with
      | lengthBegins digit => exact absurd digit noDigit
  | digits =>
      cases takes with
      | lengthGoesOn digit => exact absurd digit noDigit
      | lengthCloses => exact absurd colon (by decide)
      | lengthEnds => exact absurd colon (by decide)
  | exploded =>
      cases takes with
      | starCloses => exact absurd colon (by decide)
      | starEnds => exact absurd colon (by decide)

/-- What stands behind the only digit of a length stands behind its variable, unless it is one more
digit. -/
theorem variableRest_of_completes {length : LengthDigits} {rest : Text}
    (completes : (Reader.digits draft var length).Completes rest)
    (maximal : ∀ first ∈ rest.head?, ¬first.isDigit = true) : VariableRest rest := by
  rcases completes with ⟨more, after, rfl, isLength, follows⟩
  cases more with
  | nil => exact follows
  | cons digit more =>
      have isDigit : digit.isDigit = true := isLength.2.2 digit (by simp)
      exact absurd isDigit (maximal digit rfl)

/-- A fifth digit of a length is one too many. -/
theorem read_fifth_digit {length : LengthDigits} (full : length.text.length = 4)
    {digit : CodePoint} (isDigit : digit.isDigit = true) (position : Nat) (rest : Text) :
    (Reader.digits draft var length).read (position + 4) (digit :: rest) =
      .error (.rejected .lengthTooGreat position) := by
  apply read_cons_of_error
  have noRoom : ¬length.text.length < 4 := by omega
  have back : ((position + 4 : Nat) : Int) - (4 : Nat) = position := by omega
  rw [step, stepDigits, dif_pos isDigit, dif_neg noRoom, full, back]

end Reader

namespace Template

variable {text left before after : Text} {parts : List Part} {reader : Reader} {draft : Draft}
  {var : Variable}

/-- Behind an expression there is no literal at hand. -/
theorem parse_of_feed (fed : Reader.start.feed 0 text = .ok (.outside parts [])) :
    parse text = .ok ⟨parts⟩ := by
  have read : Reader.start.read 0 text = .ok ⟨Reader.withLiteral parts []⟩ := by
    rw [Reader.read, fed]
    rfl
  rw [parse_eq_read, read]
  rfl

/-- An expression at the end of a template does not join what is behind it. -/
theorem append_of_expression (parts : List Part) (body : Expression) (second : Template) :
    Template.append ⟨parts ++ [.expression body]⟩ second =
      ⟨parts ++ .expression body :: second.parts⟩ := by
  have noSeam : Template.seam? ⟨parts ++ [.expression body]⟩ second = none := by
    rw [Template.seam?, List.getLast?_concat, Option.bind_some]
    cases second.parts.head? <;> rfl
  rw [Template.append, noSeam, List.append_assoc]
  rfl

/-- What may stand behind a variable is the same for all variables, and so is what it adds to the
template. -/
theorem exists_parse_of_variableRest (follows : VariableRest after) :
    ∃ more back, ∀ left reader draft var, Reader.start.feed 0 left = .ok reader →
      reader.Ends draft var → parse (left ++ after) = .ok ⟨draft.parts ++
        .expression ⟨draft.operator, draft.vars ++ var :: more, by simp⟩ :: back⟩ := by
  rcases follows with ⟨outer, rfl, pieces, derived⟩ |
    ⟨_, rfl, others, vars, outer, rfl, list, pieces, derived⟩
  · refine ⟨[], Piece.parts pieces, fun left reader draft var fed ends => ?_⟩
    have closes : Reader.start.feed 0 (left ++ (['\x7d'] : Text)) =
        .ok (Reader.close draft var) := by
      rw [Reader.feed_append_of_feed fed, Reader.feed_singleton, ends.step_brace]
    have whole := parse_append_of_ok (parse_of_feed closes) (parse_of_derives derived)
    rw [append_of_expression, List.append_assoc] at whole
    exact whole
  · refine ⟨vars, Piece.parts pieces, fun left reader draft var fed ends => ?_⟩
    rcases Reader.feed_variables { draft with vars := draft.vars ++ [var] } list
      (0 + left.length + 1) with ⟨init, last, final, rfl, more, finalEnds⟩
    let rest : Text := (',' : CodePoint) :: (others ++ (['\x7d'] : Text))
    have closes : Reader.start.feed 0 (left ++ rest) =
        .ok (Reader.close { draft with vars := draft.vars ++ [var] ++ init } last) := by
      rw [Reader.feed_append_of_feed fed, Reader.feed_cons_of_step (ends.step_comma _),
        Reader.next, Reader.feed_append_of_feed more, Reader.feed_singleton,
        finalEnds.step_brace]
    have whole := parse_append_of_ok (parse_of_feed closes) (parse_of_derives derived)
    rw [append_of_expression] at whole
    simpa [rest] using whole

/-- The reader behind the digits of a length, if it is inside a name in front of them. -/
theorem feed_digits_behind {path : List Text} {name : Text}
    (front : Reader.start.feed 0 before = .ok (.name draft path name)) (length : LengthDigits) :
    Reader.start.feed 0 (before ++ (':' : CodePoint) :: length.text) =
      .ok (.digits draft (Reader.variableOf path name) length) := by
  rw [Reader.feed_append_of_feed front]
  exact Reader.feed_length draft path name length _

/-- Where an accepted template has the length one inside an expression, a reader stands inside a
name in front of the length, and a variable may end behind it. -/
theorem exists_name_of_parse {one : Template} (opens : ¬Closed before)
    (maximal : ∀ first ∈ after.head?, ¬first.isDigit = true)
    (accepted : parse (withDigits before "1" after) = .ok one) :
    ∃ draft path name, Reader.start.feed 0 before = .ok (.name draft path name) ∧
      VariableRest after := by
  rw [parse_eq_read] at accepted
  cases whole : Reader.start.read 0 (withDigits before "1" after) with
  | error halt =>
      rw [whole] at accepted
      cases accepted
  | ok same =>
      rcases exceptBind_ok.mp whole with ⟨last, fed, _⟩
      rw [withDigits, List.append_assoc, Reader.feed_append] at fed
      rcases exceptBind_ok.mp fed with ⟨reader, front, fed⟩
      rcases Reader.exists_of_feed_cons fed with ⟨there, first, fed⟩
      rcases Reader.exists_of_feed_cons fed with ⟨following, second, _⟩
      rcases Reader.name_or_outside_of_colon rfl first second with
        ⟨draft, path, name, rfl⟩ | ⟨parts, bytes, rfl⟩
      · refine ⟨draft, path, name, front, ?_⟩
        have behind := feed_digits_behind front (.single '1' (by decide))
        have rest := (Reader.read_append_of_feed behind after).symm.trans whole
        exact Reader.variableRest_of_completes (Reader.completes_of_read rest) maximal
      · exact absurd (Reader.closed_of_feed front) opens

/-- More than four digits are four and at least one more. -/
theorem exists_fifth_digit {digits : Text} (isDigit : ∀ digit ∈ digits, digit.isDigit = true)
    (many : 4 < digits.length) :
    ∃ (length : LengthDigits) (fifth : CodePoint) (rest : Text), length.text.length = 4 ∧
      fifth.isDigit = true ∧ digits = length.text ++ fifth :: rest := by
  have four : (digits.take 4).length = 4 := List.length_take_of_le (by omega)
  have nonempty : digits.take 4 ≠ [] := by
    intro empty
    rw [empty] at four
    cases four
  let length : LengthDigits := ⟨digits.take 4, nonempty,
    fun digit member => isDigit digit (List.mem_of_mem_take member), four.le⟩
  refine ⟨length, digits[4], digits.drop 5, four, isDigit _ (List.getElem_mem many), ?_⟩
  rw [← List.drop_eq_getElem_cons many]
  exact (List.take_append_drop 4 digits).symm

/-- A length is limited by the count of its digits. Let a template be accepted with the length one
behind a variable. With at most four digits in the place of the one it is accepted as well, and
that variable has the length that they spell, while all else is the same. With more digits it is
rejected at the first of them, whatever they spell. -/
theorem length_limited_by_digits {one : Template} (opens : ¬Closed before)
    (ends : ∃ first ∈ after.head?, first = ',' ∨ first = '\x7d')
    (accepted : parse (withDigits before "1" after) = .ok one) :
    ∃ site : ModifierSite, parse (before ++ (['\x7d'] : Text)) = .ok site.closedBefore ∧
      one = site.template (some (.maxLength ⟨1, by decide⟩)) ∧
      ∀ digits : Text, digits ≠ [] → (∀ digit ∈ digits, digit.isDigit = true) →
        (digits.length ≤ 4 → ∃ length : MaxLength, length.value = Text.decimalValue digits ∧
          parse (withDigits before digits after) =
            .ok (site.template (some (.maxLength length)))) ∧
        (4 < digits.length → parse (withDigits before digits after) =
          .error (.rejected ⟨.lengthTooGreat, before.length + 1,
            withDigits before digits after⟩)) := by
  have maximal : ∀ first ∈ after.head?, ¬first.isDigit = true := by
    intro first isFirst
    rcases ends with ⟨same, isSame, rfl | rfl⟩
    · rw [Option.mem_unique isFirst isSame]
      decide
    · rw [Option.mem_unique isFirst isSame]
      decide
  rcases exists_name_of_parse opens maximal accepted with ⟨draft, path, name, front, follows⟩
  rcases exists_parse_of_variableRest follows with ⟨more, back, goesOn⟩
  let site : ModifierSite :=
    ⟨draft.parts, draft.operator, draft.vars, path ++ [name], by simp, more, back⟩
  have short (length : LengthDigits) : parse (withDigits before length.text after) =
      .ok (site.template (some (.maxLength length.maxLength))) :=
    goesOn _ _ _ _ (feed_digits_behind front length) (Reader.ends_digits _ _ _)
  refine ⟨site, ?_, ?_, ?_⟩
  · apply parse_of_feed
    rw [Reader.feed_append_of_feed front, Reader.feed_singleton]
    rfl
  · have same := short (.single '1' (by decide))
    exact Except.ok.inj (accepted.symm.trans same)
  · intro digits nonempty isDigit
    constructor
    · intro few
      exact ⟨_, rfl, short ⟨digits, nonempty, isDigit, few⟩⟩
    · intro many
      rcases exists_fifth_digit isDigit many with ⟨length, fifth, rest, four, fifthDigit, rfl⟩
      have whole : withDigits before (length.text ++ fifth :: rest) after =
          (before ++ (':' : CodePoint) :: length.text) ++ fifth :: (rest ++ after) := by
        simp [withDigits]
      have place : 0 + (before ++ (':' : CodePoint) :: length.text).length =
          before.length + 1 + 4 := by
        rw [List.length_append, List.length_cons, four]
        omega
      rw [parse_eq_read, whole, Reader.read_append_of_feed (feed_digits_behind front length), place,
        Reader.read_fifth_digit four fifthDigit]
      rfl

/-- A variable between two others, in a template that goes on behind them. -/
theorem length_limited_by_digits_between :
    ¬Closed "/\x7b?x,y.z" ∧ (∃ first ∈ (",w*\x7d-" : Text).head?, first = ',' ∨ first = '\x7d') ∧
      ∃ (site : ModifierSite) (length : MaxLength),
        parse "/\x7b?x,y.z:1,w*\x7d-" = .ok (site.template (some (.maxLength ⟨1, by decide⟩))) ∧
        parse "/\x7b?x,y.z\x7d" = .ok site.closedBefore ∧ length.value = 31 ∧
        parse "/\x7b?x,y.z:0031,w*\x7d-" = .ok (site.template (some (.maxLength length))) ∧
        parse "/\x7b?x,y.z:00031,w*\x7d-" =
          .error (.rejected ⟨.lengthTooGreat, 9, "/\x7b?x,y.z:00031,w*\x7d-"⟩) := by
  have opens : ¬Closed "/\x7b?x,y.z" := by decide
  have ends : ∃ first ∈ (",w*\x7d-" : Text).head?, first = ',' ∨ first = '\x7d' :=
    ⟨',', rfl, .inl rfl⟩
  have accepted : parse (withDigits "/\x7b?x,y.z" "1" ",w*\x7d-") = .ok ⟨[.separator,
      .expression ⟨.query, [⟨["x"], none, by simp⟩,
        ⟨["y", "z"], some (.maxLength ⟨1, by decide⟩), by simp⟩,
        ⟨["w"], some .explode, by simp⟩], by simp⟩, .literal "-"]⟩ := by
    rw [parse_eq_read]
    decide +kernel
  rcases length_limited_by_digits opens ends accepted with ⟨site, closed, one, lengths⟩
  rcases (lengths "0031" (by decide) (by decide)).1 (by decide) with ⟨length, value, four⟩
  have five := (lengths "00031" (by decide) (by decide)).2 (by decide)
  rw [one] at accepted
  exact ⟨opens, ends, site, length, accepted, closed, value, four, five⟩

/-- Five digits are rejected also where they spell one. -/
theorem length_not_limited_by_value :
    parse "\x7ba:1\x7d" =
        .ok ⟨[.expression
          ⟨.simple, [⟨["a"], some (.maxLength ⟨1, by decide⟩), by simp⟩], by simp⟩]⟩ ∧
      Text.decimalValue "00001" = 1 ∧
      parse "\x7ba:00001\x7d" =
        .error (.rejected ⟨.lengthTooGreat, 3, "\x7ba:00001\x7d"⟩) := by
  refine ⟨?_, rfl, ?_⟩
  · rw [parse_eq_read]
    decide +kernel
  · rw [parse_eq_read]
    decide +kernel

end Template

end UriTemplate
