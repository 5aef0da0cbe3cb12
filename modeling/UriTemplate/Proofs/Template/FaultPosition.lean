import UriTemplate.Proofs.Template.Failure

/-!
# Where a parse error points to

The position of a parse error is exact: the text before it can be completed to a template, and with
the code point at it no longer. There are two exceptions. A length that is too great is reported
where it begins, and a triplet that the end of the template cuts short at its percent sign.

Every state of a reader can be completed, apart from the one behind a percent sign and something
that is no digit. So a text can be completed as long as it is read, and what remains is to say how
far a reader stands from the position that it reports.
-/

set_option autoImplicit false

namespace UriTemplate

open Grammar

/-! ## Causes -/

/-- Nothing but a triplet that is cut short is worded as one. -/
theorem LexicalFault.eq_unfinishedTriplet {fault : LexicalFault}
    (same : fault.message = unfinishedTriplet.message) : fault = .unfinishedTriplet := by
  -- A wording about a code point begins with a fixed text, and none of these begins the other one.
  cases fault with
  | unfinishedTriplet => rfl
  | illegalCharacter =>
      have begins : ("found illegal character «" : Text) <+: unfinishedTriplet.message := ⟨_, same⟩
      exact absurd begins (by decide +kernel)
  | illegalTriplet =>
      have begins : ("expected two hex digits, got " : Text) <+: unfinishedTriplet.message :=
        ⟨_, same⟩
      exact absurd begins (by decide +kernel)
  | reservedOperator =>
      have begins : ("unexpected reserved operator " : Text) <+: unfinishedTriplet.message :=
        ⟨_, same⟩
      exact absurd begins (by decide +kernel)
  | unexpected =>
      have begins : ("unexpected " : Text) <+: unfinishedTriplet.message := ⟨_, same⟩
      exact absurd begins (by decide +kernel)
  | _ => exact absurd same (by decide +kernel)

namespace ParseError

/-- The causes whose position is where a template goes wrong: all but a length that is too great
and a triplet that is cut short. -/
structure Cause.PointsThere (cause : Cause) : Prop where
  notLength : cause ≠ .lengthTooGreat
  notTriplet : cause ≠ .lexical LexicalFault.unfinishedTriplet.message

theorem Cause.pointsThere_lexical {fault : LexicalFault} (other : fault ≠ .unfinishedTriplet) :
    Cause.PointsThere (.lexical fault.message) where
  notLength := by simp
  notTriplet := by
    intro same
    exact other (LexicalFault.eq_unfinishedTriplet (Cause.lexical.inj same))

end ParseError

open ParseError

/-! ## Beginnings of accepted templates -/

namespace Template

/-- A text that some accepted template begins with. -/
def Extensible (text : Text) : Prop :=
  ∃ more template, parse (text ++ more) = .ok template

/-- The place at which a text stops to be the beginning of an accepted template. It is the end of
the text if the whole of it still is. -/
structure StopsAt (text : Text) (place : Nat) : Prop where
  inside : place ≤ text.length
  viable : Extensible (text.take place)
  fault : place < text.length → ¬Extensible (text.take (place + 1))

variable {text before : Text}

theorem extensible_of_derivable {more : Text} (derivable : Derivable (text ++ more)) :
    Extensible text := by
  rcases derivable with ⟨pieces, derived⟩
  exact ⟨more, _, parse_of_derives derived⟩

/-- A percent sign can be completed to a triplet. -/
theorem extensible_percent (derivable : Derivable before) :
    Extensible (before ++ (['%'] : Text)) := by
  have triplet : PieceText ['%', '4', '1'] (.literal [0x41]) := .triplet rfl
  have whole := derivable.append triplet.derivable
  rw [List.append_cons] at whole
  exact extensible_of_derivable whole

end Template

namespace Reader

open Template

/-- Whether what a reader has read can be completed: not behind a percent sign and something that
is no digit. -/
def Viable : Reader → Prop
  | triplet _ _ high => high.isHexDigit = true
  | _ => True

/-- A variable and the closing brace complete an expression. -/
theorem variablesRest_name : VariablesRest ['a', '\x7d'] := by
  have isName : IsName ['a'] := .single rfl
  exact isName.followed .none (.inl ⟨[], rfl, [], .nil⟩)

/-- There is a completion for every state in which there can be one. -/
theorem exists_completes {reader : Reader} (viable : reader.Viable) :
    ∃ more, reader.Completes more := by
  have brace : VariableRest ['\x7d'] := .inl ⟨[], rfl, [], .nil⟩
  cases reader with
  | outside => exact ⟨[], [], .nil⟩
  | percent => exact ⟨['4', '1'], '4', '1', 0x41, [], rfl, rfl, [], .nil⟩
  | triplet _ _ high =>
      rcases Option.isSome_iff_exists.mp viable with ⟨value, found⟩
      have spelled : high.hexByte? '1' = some (UInt8.ofNat (value * 16 + 1)) := by
        rw [CodePoint.hexByte?, found]
        rfl
      exact ⟨['1'], '1', _, [], rfl, spelled, [], .nil⟩
  | opening => exact ⟨['a', '\x7d'], .simple, _, rfl, variablesRest_name⟩
  | awaiting => exact ⟨['a', '\x7d'], variablesRest_name⟩
  | name => exact ⟨['\x7d'], fun _ isName => isName.followed .none brace⟩
  | colon =>
      have isLength : IsLength ['1'] := (LengthDigits.single '1' rfl).isLength
      exact ⟨['1', '\x7d'], ['1'], ['\x7d'], rfl, isLength, brace⟩
  | digits _ _ length =>
      refine ⟨['\x7d'], [], ['\x7d'], rfl, ?_, brace⟩
      rw [List.append_nil]
      exact length.isLength
  | exploded => exact ⟨['\x7d'], brace⟩

variable {reader : Reader} {text before after : Text} {point : CodePoint} {halt : Halt}
  {position : Nat} {cause : Cause} {place : Int}

/-- What has been read can be completed. -/
theorem extensible_of_feed (fed : start.feed 0 text = .ok reader) (viable : reader.Viable) :
    Extensible text := by
  rcases exists_completes viable with ⟨more, completes⟩
  exact extensible_of_derivable (completes_of_feed fed completes)

/-- What is not read to its end cannot be completed. -/
theorem not_extensible_of_feed (failed : start.feed 0 text = .error halt) : ¬Extensible text := by
  rintro ⟨more, template, parsed⟩
  rw [parse_eq_read, read, feed_append, failed] at parsed
  cases parsed

/-- Neither can a percent sign with something behind it that is no digit. -/
theorem not_extensible_of_triplet {parts : List Part} {bytes : List UInt8} {high : CodePoint}
    (fed : start.feed 0 text = .ok (.triplet parts bytes high))
    (noDigit : high.isHexDigit = false) : ¬Extensible text := by
  rintro ⟨more, template, parsed⟩
  have noValue : high.hexValue? = none := by
    simpa [CodePoint.isHexDigit] using noDigit
  rw [parse_eq_read, read_append_of_feed fed] at parsed
  cases more with
  | nil => cases parsed
  | cons low more =>
      have notSpelled : high.hexByte? low = none := by
        rw [CodePoint.hexByte?, noValue]
        rfl
      rw [read_cons, step, stepTriplet, notSpelled] at parsed
      simp only [noDigit, Bool.false_eq_true, if_false] at parsed
      cases parsed

/-- A reader that stops at a code point was right to go on up to there. -/
theorem stopsAt_of_step (fed : start.feed 0 before = .ok reader) (viable : reader.Viable)
    (stopped : reader.step before.length point = .error halt) (after : Text) :
    StopsAt (before ++ point :: after) before.length where
  inside := by simp
  viable := by
    rw [List.take_left]
    exact extensible_of_feed fed viable
  fault := by
    intro _
    have failed : start.feed 0 (before ++ [point]) = .error halt := by
      rw [feed_append_of_feed fed, Nat.zero_add, feed_singleton, stopped]
    rw [List.append_cons, List.take_left' (by simp)]
    exact not_extensible_of_feed failed

/-! ## What a reader reports -/

/-- What a reader reports when it stops at the code point at a position: this position, that of the
digit before it, or that of the first digit of a length. -/
inductive Reports (position : Nat) (point : CodePoint) : Reader → Cause → Int → Prop where
  | here {reader : Reader} {cause : Cause} : cause.PointsThere → reader.Viable →
      Reports position point reader cause position
  | digit {parts : List Part} {bytes : List UInt8} {high : CodePoint} : high.isHexDigit = false →
      Reports position point (.triplet parts bytes high)
        (.lexical (LexicalFault.illegalTriplet high).message) (position - 1 : Nat)
  | length {draft : Draft} {var : Variable} {length : LengthDigits} : point.isDigit = true →
      length.text.length = 4 →
      Reports position point (.digits draft var length) .lengthTooGreat (position - 4 : Int)

/-- A lexical fault at the code point where the reader stops. -/
theorem Reports.lexical {fault : LexicalFault} (other : fault ≠ .unfinishedTriplet)
    (viable : reader.Viable) : Reports position point reader (.lexical fault.message) position :=
  .here (Cause.pointsThere_lexical other) viable

theorem reports_of_stepModified {draft : Draft} {var : Variable} (viable : reader.Viable)
    (stopped : stepModified draft var position point = .error (.rejected cause place)) :
    Reports position point reader cause place := by
  simp only [stepModified, Halt.lexical, close, next] at stopped
  split_ifs at stopped
  · cases stopped
    exact .here ⟨by simp, by simp⟩ viable
  · cases stopped
    exact .here ⟨by simp, by simp⟩ viable
  · cases stopped
    exact .here ⟨by simp, by simp⟩ viable
  · cases stopped
    exact .lexical (by simp) viable

/-- What a reader reports, state by state. -/
theorem reports_of_step (stopped : reader.step position point = .error (.rejected cause place)) :
    Reports position point reader cause place := by
  cases reader with
  | outside =>
      simp only [step, stepOutside, Halt.lexical] at stopped
      split_ifs at stopped
      cases stopped
      exact .lexical (by simp) trivial
  | percent => cases stopped
  | triplet _ _ high =>
      simp only [step, stepTriplet, Halt.lexical] at stopped
      split at stopped
      · cases stopped
      split at stopped
      next digit =>
        cases stopped
        exact .lexical (by simp) digit
      next noDigit =>
        cases stopped
        exact .digit (by simpa using noDigit)
  | opening =>
      simp only [step, stepOpening, Halt.lexical] at stopped
      split at stopped
      · cases stopped
        exact .lexical (by simp) trivial
      split at stopped
      · cases stopped
      split at stopped
      · cases stopped
      split at stopped
      · cases stopped
        exact .lexical (by simp) trivial
      · cases stopped
        exact .lexical (by simp) trivial
  | awaiting =>
      simp only [step, stepAwaiting, Halt.lexical] at stopped
      split_ifs at stopped
      · cases stopped
        exact .here ⟨by simp, by simp⟩ trivial
      · cases stopped
      · cases stopped
      · cases stopped
        exact .lexical (by simp) trivial
  | name =>
      simp only [step, stepName, Halt.lexical, close, next] at stopped
      split_ifs at stopped
      cases stopped
      exact .lexical (by simp) trivial
  | colon =>
      simp only [step, stepColon, Halt.lexical] at stopped
      split at stopped
      · cases stopped
      · cases stopped
        exact .lexical (by simp) trivial
  | digits _ _ length =>
      simp only [step, stepDigits] at stopped
      split at stopped
      next digit =>
        split at stopped
        · cases stopped
        next full =>
          have four : length.text.length = 4 := Nat.le_antisymm length.length_le (by omega)
          cases stopped
          rw [four]
          exact .length digit four
      next => exact reports_of_stepModified trivial stopped
  | exploded => exact reports_of_stepModified trivial stopped

end Reader

/-! ## Exact positions -/

namespace Template

/-- What an exact position promises for each cause of a parse error. -/
structure Exact (text : Text) (cause : Cause) (place : Nat) : Prop where
  inside : place ≤ text.length
  extensible : place = text.length → Extensible text
  there : cause.PointsThere → StopsAt text place
  length : cause = .lengthTooGreat → ∃ before digits fifth after,
    text = before ++ (':' : CodePoint) :: (digits ++ fifth :: after) ∧ place = before.length + 1 ∧
      digits.length = 4 ∧ (∀ digit ∈ digits ++ [fifth], digit.isDigit = true) ∧
      StopsAt text (place + 4)
  triplet : cause = .lexical LexicalFault.unfinishedTriplet.message →
    text[place]? = some '%' ∧ text.length ≤ place + 2 ∧ Extensible (text.take (place + 1))

namespace Exact

variable {text before : Text} {cause : Cause} {place : Nat}

theorem of_stopsAt (stops : StopsAt text place) (pointsThere : cause.PointsThere) :
    Exact text cause place where
  inside := stops.inside
  extensible := by
    rintro rfl
    have viable := stops.viable
    rwa [List.take_length] at viable
  there _ := stops
  length isLength := absurd isLength pointsThere.notLength
  triplet isTriplet := absurd isTriplet pointsThere.notTriplet

/-- A triplet that the end of the template cuts short. -/
theorem of_triplet (derivable : Derivable before) {digits : Text} (short : digits.length ≤ 1) :
    Exact (before ++ ('%' : CodePoint) :: digits) (.lexical LexicalFault.unfinishedTriplet.message)
      before.length where
  inside := by simp
  extensible := by simp
  there pointsThere := absurd rfl pointsThere.notTriplet
  length isLength := by cases isLength
  triplet := by
    intro _
    refine ⟨by simp, by simpa using short, ?_⟩
    rw [List.append_cons, List.take_left' (by simp)]
    exact extensible_percent derivable

/-- A length with a fifth digit. -/
theorem of_length {digits after : Text} {fifth : CodePoint} (four : digits.length = 4)
    (isDigit : ∀ digit ∈ digits ++ [fifth], digit.isDigit = true)
    (stops : StopsAt (before ++ (':' : CodePoint) :: (digits ++ fifth :: after))
      (before.length + 1 + 4)) :
    Exact (before ++ (':' : CodePoint) :: (digits ++ fifth :: after)) .lengthTooGreat
      (before.length + 1) where
  inside := by simp
  extensible := by
    intro atEnd
    simp only [List.length_append, List.length_cons] at atEnd
    omega
  there pointsThere := absurd rfl pointsThere.notLength
  length _ := ⟨before, digits, fifth, after, rfl, rfl, four, isDigit, stops⟩
  triplet isTriplet := by cases isTriplet

end Exact

end Template

namespace Reader

open Template

variable {reader : Reader} {text before : Text} {point : CodePoint} {cause : Cause} {place : Int}

/-- What a reader has read from the beginning is behind it. -/
theorem behind_of_start (fed : start.feed 0 text = .ok reader) : reader.Behind text := by
  have nothing : start.Behind [] := ⟨[], .nil⟩
  exact behind_of_feed nothing fed

/-- Behind something that is no digit of a triplet it is that which is wrong. -/
theorem stopsAt_digit {parts : List Part} {bytes : List UInt8} {high : CodePoint}
    (fed : start.feed 0 text = .ok (.triplet parts bytes high))
    (noDigit : high.isHexDigit = false) (after : Text) :
    StopsAt (text ++ after) (text.length - 1) := by
  rcases behind_of_start fed with ⟨before, split, derivable⟩
  have length : text.length - 1 = before.length + 1 := by
    rw [split, List.length_append]
    rfl
  rw [length]
  constructor
  · rw [split]
    simp
  · have percent : text ++ after = (before ++ (['%'] : Text)) ++ high :: after := by
      rw [split]
      simp
    rw [percent, List.take_left' (by simp)]
    exact extensible_percent derivable
  · intro _
    rw [List.take_left' (by rw [split]; simp)]
    exact not_extensible_of_triplet fed noDigit

/-- What is wrong at a code point is reported exactly. -/
theorem exact_of_step (fed : start.feed 0 before = .ok reader)
    (stopped : reader.step before.length point = .error (.rejected cause place)) (after : Text) :
    ∃ spot : Nat, place = spot ∧ Exact (before ++ point :: after) cause spot := by
  cases reports_of_step stopped with
  | here pointsThere viable =>
      exact ⟨_, rfl, .of_stopsAt (stopsAt_of_step fed viable stopped after) pointsThere⟩
  | digit noDigit =>
      exact ⟨_, rfl, .of_stopsAt (stopsAt_digit fed noDigit _)
        (Cause.pointsThere_lexical (by simp))⟩
  | @length draft var length digit four =>
      -- The reader stands at the fifth digit, and the report goes back over the four before it.
      rcases behind_of_start fed with ⟨there, names, split, _, _⟩
      have colon : before.length = (there ++ names).length + 1 + 4 := by
        simp only [split, List.length_append, List.length_cons, four]
        omega
      have stops : StopsAt (before ++ point :: after) before.length :=
        stopsAt_of_step fed trivial stopped after
      have whole : before ++ point :: after =
          (there ++ names) ++ (':' : CodePoint) :: (length.text ++ point :: after) := by
        simp only [split, List.append_assoc, List.cons_append]
      have isDigit : ∀ other ∈ length.text ++ [point], other.isDigit = true := by
        intro other member
        rcases List.mem_append.mp member with inside | last
        · exact length.isDigit other inside
        · rw [List.mem_singleton.mp last]
          exact digit
      rw [whole, colon] at stops
      rw [whole]
      exact ⟨_, by omega, .of_length four isDigit stops⟩

/-- What is missing at the end is reported exactly. -/
theorem exact_of_finish (fed : start.feed 0 text = .ok reader)
    (stopped : reader.finish text.length = .error (.rejected cause place)) :
    ∃ spot : Nat, place = spot ∧ Exact text cause spot := by
  have behind := behind_of_start fed
  have ended : reader.Viable → StopsAt text text.length := by
    intro viable
    refine ⟨Nat.le_refl _, ?_, fun longer => absurd longer (Nat.lt_irrefl _)⟩
    rw [List.take_length]
    exact extensible_of_feed fed viable
  cases reader with
  | outside => cases stopped
  | percent =>
      rcases behind with ⟨before, rfl, derivable⟩
      cases stopped
      refine ⟨before.length, ?_, .of_triplet derivable (Nat.zero_le _)⟩
      simp
  | triplet =>
      rcases behind with ⟨before, rfl, derivable⟩
      cases stopped
      refine ⟨before.length, ?_, .of_triplet derivable (Nat.le_refl _)⟩
      simp
  | _ =>
      cases stopped
      exact ⟨_, rfl, .of_stopsAt (ended trivial) (Cause.pointsThere_lexical (by simp))⟩

end Reader

namespace Template

/-- The position of a parse error is exact. -/
theorem exact_of_rejected {text : Text} {error : ParseError}
    (rejected : parse text = .error (.rejected error)) :
    ∃ place : Nat, error.position = place ∧ Exact text error.cause place := by
  rw [parse_eq_read] at rejected
  cases read : Reader.start.read 0 text with
  | ok template =>
      rw [read] at rejected
      cases rejected
  | error halt =>
      rw [read] at rejected
      cases halt with
      | undefinedState => cases rejected
      | rejected cause position =>
          cases rejected
          rw [Reader.read] at read
          cases fed : Reader.start.feed 0 text with
          | ok reader =>
              rw [fed, Nat.zero_add] at read
              exact Reader.exact_of_finish fed read
          | error halt =>
              rw [fed] at read
              cases read
              rcases Reader.exists_of_feed_error fed with
                ⟨before, point, after, there, rfl, fed, stopped⟩
              rw [Nat.zero_add] at stopped
              exact Reader.exact_of_step fed stopped after

/-- A length that is too great is reported where it begins, and what is wrong is its fifth digit. -/
theorem exact_of_rejected_length :
    parse "\x7ba:12345\x7d" = .error (.rejected ⟨.lengthTooGreat, 3, "\x7ba:12345\x7d"⟩) ∧
      ∃ place : Nat, (3 : Int) = place ∧ Exact "\x7ba:12345\x7d" .lengthTooGreat place := by
  have rejected : parse "\x7ba:12345\x7d" =
      .error (.rejected ⟨.lengthTooGreat, 3, "\x7ba:12345\x7d"⟩) := by
    rw [parse_eq_read]
    rfl
  exact ⟨rejected, exact_of_rejected rejected⟩

end Template

end UriTemplate
