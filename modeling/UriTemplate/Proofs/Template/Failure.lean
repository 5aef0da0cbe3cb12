import UriTemplate.Proofs.Template.Prefix

/-!
# How parsing fails

Parsing fails at the first code point that the reader does not take, or at the end. Almost every
such failure is a parse error. The exception is a modifier where a name is expected: the lexer
hands out its mark, and the parser has no rule for it. So a template is parsed or rejected with a
parse error exactly if it has no modifier in such a place.
-/

set_option autoImplicit false

namespace UriTemplate

open Grammar

namespace Reader

variable {reader : Reader} {position : Nat} {point mark : CodePoint} {text : Text} {halt : Halt}
  {state : Parser.State} {token : Token} {type : TokenType}

/-- A reader stops at the first code point that it does not take. -/
theorem exists_of_feed_error (failed : reader.feed position text = .error halt) :
    ∃ before point after there, text = before ++ point :: after ∧
      reader.feed position before = .ok there ∧
      there.step (position + before.length) point = .error halt := by
  induction text generalizing reader position with
  | nil => cases failed
  | cons point text ih =>
      cases stepped : reader.step position point with
      | error other =>
          rw [feed_cons, stepped] at failed
          cases failed
          exact ⟨[], point, text, reader, rfl, rfl, stepped⟩
      | ok following =>
          rw [feed_cons_of_step stepped] at failed
          rcases ih failed with ⟨before, other, after, there, rfl, fed, stopped⟩
          refine ⟨point :: before, other, after, there, rfl, ?_, ?_⟩
          · rw [feed_cons_of_step stepped, fed]
          · rw [List.length_cons, ← Nat.succ_add_eq_add_succ]
            exact stopped

/-- The mark of a modifier is not provided for where a name has to begin. -/
theorem step_awaiting_mark {draft : Draft} {path : List Text} (marks : ModifierMark mark type) :
    (awaiting draft path).step position mark =
      .error (.undefinedState .expression ⟨type, [mark], position⟩) := by
  cases marks <;> rfl

/-- Nothing else is unprovided for. -/
theorem awaiting_of_undefinedState
    (stopped : reader.step position point = .error (.undefinedState state token)) :
    ∃ draft path type, reader = .awaiting draft path ∧ ModifierMark point type ∧
      state = .expression ∧ token = ⟨type, [point], position⟩ := by
  have modified : ∀ draft var,
      stepModified draft var position point ≠ .error (.undefinedState state token) := by
    intro draft var
    simp only [stepModified, Halt.lexical]
    split_ifs <;> simp [close, next]
  cases reader with
  | awaiting draft path =>
      simp only [step, stepAwaiting, Halt.lexical] at stopped
      split at stopped
      · cases stopped
      split at stopped
      · cases stopped
      split at stopped
      next star =>
        cases stopped
        subst star
        exact ⟨draft, path, .explode, rfl, .star, rfl, rfl⟩
      split at stopped
      next colon =>
        cases stopped
        subst colon
        exact ⟨draft, path, .colon, rfl, .colon, rfl, rfl⟩
      next => cases stopped
  | outside =>
      simp only [step, stepOutside, Halt.lexical] at stopped
      split_ifs at stopped
      cases stopped
  | percent => cases stopped
  | triplet =>
      simp only [step, stepTriplet, Halt.lexical] at stopped
      split at stopped
      · cases stopped
      split at stopped <;> cases stopped
  | opening =>
      simp only [step, stepOpening, Halt.lexical] at stopped
      split at stopped
      · cases stopped
      split at stopped
      · cases stopped
      split at stopped
      · cases stopped
      split at stopped <;> cases stopped
  | name =>
      simp only [step, stepName, Halt.lexical, close, next] at stopped
      split_ifs at stopped
      cases stopped
  | colon =>
      simp only [step, stepColon, Halt.lexical] at stopped
      split at stopped <;> cases stopped
  | digits =>
      simp only [step, stepDigits] at stopped
      split at stopped
      · split at stopped <;> cases stopped
      · exact absurd stopped (modified _ _)
  | exploded => exact absurd stopped (modified _ _)

/-- The end of a template is provided for in every state. -/
theorem finish_ne_undefinedState (reader : Reader) (length : Nat) :
    reader.finish length ≠ .error (.undefinedState state token) := by
  cases reader <;> simp [finish, Halt.lexical]

/-- Reading stops for lack of a rule exactly at a modifier where a name is expected. -/
theorem read_eq_undefinedState_iff :
    Reader.start.read 0 text = .error (.undefinedState state token) ↔
      state = .expression ∧ ∃ before mark type after, text = before ++ mark :: after ∧
        NameExpected before ∧ ModifierMark mark type ∧
        token = ⟨type, [mark], before.length⟩ := by
  constructor
  · intro failed
    rw [read] at failed
    cases fed : Reader.start.feed 0 text with
    | ok reader =>
        rw [fed] at failed
        exact absurd failed (finish_ne_undefinedState _ _)
    | error halt =>
        rw [fed] at failed
        cases failed
        rcases exists_of_feed_error fed with ⟨before, mark, after, there, rfl, read, stopped⟩
        rcases awaiting_of_undefinedState stopped with ⟨draft, path, type, rfl, marks, rfl, rfl⟩
        -- What is behind the reader where it stops says that a name is expected there.
        have nothing : Reader.start.Behind [] := ⟨[], .nil⟩
        have behind := behind_of_feed nothing read
        rw [Nat.zero_add]
        exact ⟨rfl, before, mark, type, after, rfl, behind.nameExpected, marks, rfl⟩
  · intro misplaced
    rcases misplaced with ⟨rfl, before, mark, type, after, rfl, expected, marks, rfl⟩
    rcases feed_nameExpected expected with ⟨draft, path, fed⟩
    rw [read_append_of_feed fed, read_cons_of_error (step_awaiting_mark marks), Nat.zero_add]

end Reader

namespace Template

variable {text : Text} {failure : Parser.Failure} {state : Parser.State} {token : Token}

/-- Whatever parsing fails with, it is a parse error about the template, or there is no rule for
a token. -/
theorem rejected_or_undefinedState (failed : parse text = .error failure) :
    (∃ cause position, failure = .rejected ⟨cause, position, text⟩) ∨
      ∃ state token, failure = .undefinedState state token := by
  rw [parse_eq_read] at failed
  cases read : Reader.start.read 0 text with
  | ok template =>
      rw [read] at failed
      cases failed
  | error halt =>
      rw [read] at failed
      cases failed
      cases halt with
      | rejected cause position => exact .inl ⟨cause, position, rfl⟩
      | undefinedState state token => exact .inr ⟨state, token, rfl⟩

/-- There is no rule for a modifier where a name is expected, and for nothing else. -/
theorem parse_eq_undefinedState_iff :
    parse text = .error (.undefinedState state token) ↔
      state = .expression ∧ ∃ before mark type after, text = before ++ mark :: after ∧
        NameExpected before ∧ ModifierMark mark type ∧
        token = ⟨type, [mark], before.length⟩ := by
  rw [← Reader.read_eq_undefinedState_iff, parse_eq_read]
  cases Reader.start.read 0 text with
  | ok template => simp [Except.mapError]
  | error halt => cases halt <;> simp [Except.mapError, Halt.failure]

/-- A template is parsed or rejected with a parse error, unless a modifier stands where a name is
expected. -/
theorem parsed_or_rejected_iff (text : Text) :
    ((∃ template, parse text = .ok template) ∨
        ∃ cause position, parse text = .error (.rejected ⟨cause, position, text⟩)) ↔
      ¬HasMisplacedModifier text := by
  constructor
  · intro answered misplaced
    rcases misplaced with ⟨before, mark, type, after, split, expected, marks⟩
    have undefined := parse_eq_undefinedState_iff.mpr
      ⟨rfl, before, mark, type, after, split, expected, marks, rfl⟩
    rcases answered with ⟨template, parsed⟩ | ⟨cause, position, rejected⟩
    · rw [undefined] at parsed
      cases parsed
    · rw [undefined] at rejected
      cases rejected
  · intro wellPlaced
    cases result : parse text with
    | ok template => exact .inl ⟨template, rfl⟩
    | error failure =>
        rcases rejected_or_undefinedState result with ⟨cause, position, rfl⟩ | ⟨state, token, rfl⟩
        · exact .inr ⟨cause, position, rfl⟩
        · rcases parse_eq_undefinedState_iff.mp result with
            ⟨_, before, mark, type, after, split, expected, marks, _⟩
          exact absurd ⟨before, mark, type, after, split, expected, marks⟩ wellPlaced

/-- A star right behind an operator is neither parsed nor rejected. -/
theorem parse_misplaced_star :
    parse "\x7b+*\x7d" = .error (.undefinedState .expression ⟨.explode, "*", 2⟩) ∧
      ¬((∃ template, parse "\x7b+*\x7d" = .ok template) ∨
        ∃ error, parse "\x7b+*\x7d" = .error (.rejected error)) := by
  have undefined : parse "\x7b+*\x7d" =
      .error (.undefinedState .expression ⟨.explode, "*", 2⟩) := by
    rw [parse_eq_read]
    rfl
  rw [undefined]
  simp

end Template

end UriTemplate
