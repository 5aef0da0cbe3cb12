import UriTemplate.Template.Parser

/-!
# Steps of the parser that fail

A step of the parser may change the working fields several times, and between two changes something
may be refused. Still a step that fails leaves the fields as they were, whatever they hold and
whatever token it is given. Steps are put together so that what may fail comes before the first
change, or so that nothing behind a change can fail any more. `Step.Atomic` says this of one step,
and the lemmas about it say when a sequence of steps has it from its parts.
-/

set_option autoImplicit false

namespace UriTemplate.Parser

namespace Step

variable {α β : Type}

/-- A step that leaves the fields as they were if it fails. -/
def Atomic (step : Step α) : Prop :=
  ∀ parser failure fields, step.outcome parser = (.error failure, fields) → fields = parser

/-- A step that leaves the fields as they were in any case. -/
def Observes (step : Step α) : Prop :=
  ∀ parser, (step.outcome parser).2 = parser

/-- A step that does not fail on given fields. -/
def SucceedsOn (step : Step α) (parser : Parser) : Prop :=
  ∃ result fields, step.outcome parser = (.ok result, fields)

theorem outcome_bind_of_ok {step : Step α} {parser fields : Parser} {result : α}
    (done : step.outcome parser = (.ok result, fields)) (next : α → Step β) :
    (step >>= next).outcome parser = (next result).outcome fields := by
  rw [outcome_bind, done]

theorem observes_get : (get : Step Parser).Observes := fun _ => rfl

theorem observes_build (candidate : Except ModelError α) : (build candidate).Observes := by
  intro parser
  rw [outcome_build]

theorem atomic_pure (result : α) : (pure result : Step α).Atomic := by
  intro parser failure fields failed
  cases failed

theorem atomic_throw (failure : Failure) : (throw failure : Step α).Atomic := by
  intro parser _ fields failed
  cases failed
  rfl

theorem atomic_reject (cause : ParseError.Cause) (position : Int) :
    (reject cause position : Step α).Atomic := by
  intro parser failure fields failed
  cases failed
  rfl

/-- A change of the fields does not fail. -/
theorem atomic_modify (change : Parser → Parser) : (modify change : Step Unit).Atomic := by
  intro parser failure fields failed
  cases failed

theorem succeedsOn_pure (result : α) (parser : Parser) : (pure result : Step α).SucceedsOn parser :=
  ⟨result, parser, rfl⟩

theorem succeedsOn_modify (change : Parser → Parser) (parser : Parser) :
    (modify change : Step Unit).SucceedsOn parser :=
  ⟨(), change parser, rfl⟩

theorem SucceedsOn.bind {step : Step α} {next : α → Step β} {parser : Parser}
    (succeeds : step.SucceedsOn parser)
    (goesOn : ∀ result fields, step.outcome parser = (.ok result, fields) →
      (next result).SucceedsOn fields) : (step >>= next).SucceedsOn parser := by
  rcases succeeds with ⟨result, fields, done⟩
  rcases goesOn result fields done with ⟨final, after, finished⟩
  exact ⟨final, after, (outcome_bind_of_ok done next).trans finished⟩

/-- What is refused before the first change leaves no trace. -/
theorem Observes.bind {step : Step α} {next : α → Step β} (observes : step.Observes)
    (goesOn : ∀ result, (next result).Atomic) : (step >>= next).Atomic := by
  intro parser failure fields failed
  have same := observes parser
  rw [outcome_bind] at failed
  rcases done : step.outcome parser with ⟨refused | result, after⟩
  · rw [done] at failed same
    cases failed
    exact same
  · rw [done] at failed same
    subst same
    exact goesOn result _ _ _ failed

/-- Behind a change nothing may be refused any more. -/
theorem Atomic.bind {step : Step α} {next : α → Step β} (atomic : step.Atomic)
    (goesOn : ∀ parser result fields, step.outcome parser = (.ok result, fields) →
      (next result).SucceedsOn fields) : (step >>= next).Atomic := by
  intro parser failure fields failed
  rcases done : step.outcome parser with ⟨refused | result, after⟩
  · rw [outcome_bind, done] at failed
    cases failed
    exact atomic _ _ _ done
  · rcases goesOn parser result after done with ⟨final, last, finished⟩
    rw [outcome_bind_of_ok done, finished] at failed
    cases failed

/-- A step may give its result when all is done. -/
theorem Atomic.bind_pure {step : Step α} (atomic : step.Atomic) (result : β) :
    (step >>= fun _ => pure result).Atomic :=
  atomic.bind fun _ _ fields _ => succeedsOn_pure result fields

end Step

open Step

/-! ## Parts of steps -/

theorem atomic_flushLiteral : flushLiteral.Atomic := by
  apply observes_get.bind
  intro parser
  split
  · exact atomic_pure ()
  · dsimp only
    split
    · exact atomic_throw _
    · intro _ failure fields failed
      cases failed

theorem succeedsOn_closeSeparator (parser : Parser) : closeSeparator.SucceedsOn parser :=
  succeedsOn_modify _ parser

theorem succeedsOn_startVariable (parser : Parser) : startVariable.SucceedsOn parser :=
  succeedsOn_modify _ parser

theorem atomic_closeVariable : closeVariable.Atomic := by
  apply observes_get.bind
  intro parser
  apply (observes_build _).bind
  intro var
  apply (atomic_modify _).bind
  intro _ _ fields _
  exact succeedsOn_startVariable fields

/-- Behind a variable that is finished there is one. -/
theorem vars_ne_nil_of_closeVariable {parser fields : Parser}
    (closed : closeVariable.outcome parser = (.ok (), fields)) : fields.vars ≠ [] := by
  simp only [closeVariable, outcome_bind, outcome_get, outcome_build] at closed
  cases made : Variable.make parser.path parser.modifier with
  | error error =>
      rw [made] at closed
      cases closed
  | ok var =>
      rw [made] at closed
      cases closed
      exact List.append_ne_nil_of_right_ne_nil _ (List.cons_ne_nil _ _)

/-- An expression is refused for its last variable only. -/
theorem atomic_closeExpression : closeExpression.Atomic := by
  apply atomic_closeVariable.bind
  intro parser _ fields closed
  have someVars := vars_ne_nil_of_closeVariable closed
  refine ⟨(), { fields with
    parts := fields.parts ++ [.expression ⟨fields.operator, fields.vars, someVars⟩] }, ?_⟩
  simp only [outcome_bind, outcome_get, outcome_build, Expression.make, dif_neg someVars]
  rfl

/-! ## Handlers -/

theorem atomic_handleRaw (token : Token) : (handleRaw token).Atomic := by
  rw [handleRaw]
  split
  · exact (atomic_modify _).bind_pure _
  · apply atomic_flushLiteral.bind
    intro _ _ fields _
    apply (succeedsOn_closeSeparator fields).bind
    intro _ after _
    exact succeedsOn_pure _ after
  · apply atomic_flushLiteral.bind
    intro _ _ fields _
    apply (succeedsOn_modify _ fields).bind
    intro _ opened _
    apply (succeedsOn_startVariable opened).bind
    intro _ after _
    exact succeedsOn_pure _ after
  · exact atomic_throw _

theorem atomic_handleExpression (token : Token) : (handleExpression token).Atomic := by
  rw [handleExpression]
  split
  · exact (atomic_modify _).bind_pure _
  · exact atomic_reject _ _
  · exact atomic_reject _ _
  · exact atomic_reject _ _
  · exact atomic_throw _

theorem atomic_handleMaybeOperator (token : Token) : (handleMaybeOperator token).Atomic := by
  rw [handleMaybeOperator]
  split
  · apply (observes_build _).bind
    intro operator
    exact (atomic_modify _).bind_pure _
  · exact atomic_handleExpression token

theorem atomic_handleExtraName (token : Token) : (handleExtraName token).Atomic := by
  apply observes_get.bind
  intro parser
  split
  · exact atomic_throw _
  · split
    · exact atomic_reject _ _
    · exact atomic_reject _ _
  · exact atomic_reject _ _

theorem atomic_handleAfterVariable (token : Token) : (handleAfterVariable token).Atomic := by
  apply observes_get.bind
  intro parser
  split
  · exact atomic_closeExpression.bind_pure _
  · split
    · exact atomic_reject _ _
    · exact atomic_pure _
  · exact atomic_closeVariable.bind_pure _
  · split
    · exact atomic_reject _ _
    · exact atomic_pure _
  · split
    · exact atomic_reject _ _
    · exact (atomic_modify _).bind_pure _
  · exact atomic_handleExtraName token
  · exact atomic_throw _

theorem atomic_handleLength (token : Token) : (handleLength token).Atomic := by
  rw [handleLength]
  split
  · split
    · exact atomic_throw _
    · apply (observes_build _).bind
      intro length
      apply (atomic_modify _).bind
      intro _ _ fields _
      apply (succeedsOn_modify _ fields).bind
      intro _ after _
      exact succeedsOn_pure _ after
  · exact atomic_throw _

theorem atomic_handle (state : State) (token : Token) : (handle state token).Atomic := by
  cases state with
  | raw => exact atomic_handleRaw token
  | maybeOperator => exact atomic_handleMaybeOperator token
  | expression => exact atomic_handleExpression token
  | afterVariable => exact atomic_handleAfterVariable token
  | length => exact atomic_handleLength token

variable {parser fields : Parser} {failure : Failure}

/-- Whatever the working fields are, a step on any token in any state that fails leaves them as
they were, and so does the joining of literal text. -/
theorem fields_eq_of_failed (state : State) (token : Token) :
    ((handle state token).outcome parser = (.error failure, fields) → fields = parser) ∧
      (flushLiteral.outcome parser = (.error failure, fields) → fields = parser) :=
  ⟨atomic_handle state token parser failure fields, atomic_flushLiteral parser failure fields⟩

/-- Fields that no template leads to: a variable without a path, behind which the brace of its
expression is refused, and literal text that has no bytes. -/
theorem fields_eq_of_failed_pathless :
    let parser : Parser := ⟨"t", [.separator], [[⟨0xD800, by decide⟩]], .query,
      [⟨["a"], none, by simp⟩], [], some .explode, 2⟩
    (handle .afterVariable ⟨.rightBrace, "\x7d", 7⟩).outcome parser =
        (.error (.model .emptyPath),
          ((handle .afterVariable ⟨.rightBrace, "\x7d", 7⟩).outcome parser).2) ∧
      ((handle .afterVariable ⟨.rightBrace, "\x7d", 7⟩).outcome parser).2 = parser ∧
      flushLiteral.outcome parser =
        (.error (.unencodable ⟨0, 1, ⟨0xD800, by decide⟩⟩), (flushLiteral.outcome parser).2) ∧
      (flushLiteral.outcome parser).2 = parser := by
  intro parser
  exact ⟨rfl, (fields_eq_of_failed .afterVariable ⟨.rightBrace, "\x7d", 7⟩).1 rfl, rfl,
    (fields_eq_of_failed .raw ⟨.endOfInput, [], 0⟩).2 rfl⟩

end UriTemplate.Parser
