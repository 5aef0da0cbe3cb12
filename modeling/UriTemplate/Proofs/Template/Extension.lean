import UriTemplate.Proofs.Template.Failure

/-!
# Failures that stay when more text follows

A token may be longer when more text follows it, and so the tokens of a template are not the first
tokens of a longer one. Its failures are: the reader stops at a code point without a look at those
behind it, so it stops there in the longer template too. Only a template that ends too early fails
in a way that more text may change.
-/

set_option autoImplicit false

namespace UriTemplate

namespace Parser.Failure

/-- The failures of a template that ends too early: inside an expression, inside a triplet, or
where the digits of a length have to begin. -/
inductive AtEnd (text : Text) : Failure → Prop where
  | expression {position : Int} :
      AtEnd text (.rejected ⟨.lexical LexicalFault.unfinishedExpression.message, position, text⟩)
  | triplet {position : Int} :
      AtEnd text (.rejected ⟨.lexical LexicalFault.unfinishedTriplet.message, position, text⟩)
  | length : AtEnd text (.rejected ⟨.lexical LexicalFault.missingLength.message, text.length, text⟩)

/-- The same failure of another template. -/
def on (template : Text) : Failure → Failure
  | rejected error => .rejected { error with template := template }
  | failure => failure

/-- What is said about a failure does not depend on the template. -/
theorem message_on (template : Text) (failure : Failure) :
    (failure.on template).message = failure.message := by
  cases failure <;> rfl

end Parser.Failure

theorem Halt.failure_on (halt : Halt) (text template : Text) :
    (halt.failure text).on template = halt.failure template := by
  cases halt <;> rfl

namespace Reader

variable {reader : Reader} {position : Nat} {text : Text} {halt : Halt}

/-- A reader that stops has not looked at what follows. -/
theorem feed_append_of_error (failed : reader.feed position text = .error halt) (more : Text) :
    reader.feed position (text ++ more) = .error halt := by
  rw [feed_append, failed]
  rfl

/-- A reader that is stopped by the end of a template has come to an end that is too early. -/
theorem atEnd_of_finish (stopped : reader.finish text.length = .error halt) :
    (halt.failure text).AtEnd text := by
  cases reader with
  | outside => cases stopped
  | percent =>
      cases stopped
      exact .triplet
  | triplet =>
      cases stopped
      exact .triplet
  | colon =>
      cases stopped
      exact .length
  | _ =>
      cases stopped
      exact .expression

end Reader

namespace Template

variable {text : Text} {failure : Parser.Failure}

/-- Parsing fails at a code point, or at an end that is too early. -/
theorem feed_error_or_atEnd (failed : parse text = .error failure) :
    (∃ halt, Reader.start.feed 0 text = .error halt ∧ failure = halt.failure text) ∨
      failure.AtEnd text := by
  rw [parse_eq_read, Reader.read, Nat.zero_add] at failed
  cases fed : Reader.start.feed 0 text with
  | error halt =>
      rw [fed] at failed
      cases failed
      exact .inl ⟨halt, rfl, rfl⟩
  | ok reader =>
      rw [fed] at failed
      have ended : (reader.finish text.length).mapError (Halt.failure text) = .error failure :=
        failed
      cases stopped : reader.finish text.length with
      | ok template =>
          rw [stopped] at ended
          cases ended
      | error halt =>
          rw [stopped] at ended
          cases ended
          exact .inr (Reader.atEnd_of_finish stopped)

/-- A template that fails, and not because it ends too early, fails in the same way with any text
behind it: for the same cause, with the same words and at the same position. -/
theorem parse_append_of_failed (failed : parse text = .error failure)
    (stays : ¬failure.AtEnd text) (more : Text) :
    parse (text ++ more) = .error (failure.on (text ++ more)) ∧
      (failure.on (text ++ more)).message = failure.message := by
  refine ⟨?_, failure.message_on _⟩
  rcases feed_error_or_atEnd failed with ⟨halt, fed, rfl⟩ | atEnd
  · rw [parse_eq_read, Reader.read, Reader.feed_append_of_error fed, halt.failure_on]
    rfl
  · exact absurd atEnd stays

/-- A sixth digit does not change what is said about the fifth. -/
theorem parse_append_of_failed_length :
    parse "\x7ba:12345" = .error (.rejected ⟨.lengthTooGreat, 3, "\x7ba:12345"⟩) ∧
      parse "\x7ba:123456\x7d" =
        .error (.rejected ⟨.lengthTooGreat, 3, "\x7ba:123456\x7d"⟩) := by
  have failed : parse "\x7ba:12345" =
      .error (.rejected ⟨.lengthTooGreat, 3, "\x7ba:12345"⟩) := by
    rw [parse_eq_read]
    rfl
  have stays : ¬(Parser.Failure.rejected ⟨.lengthTooGreat, 3, "\x7ba:12345"⟩).AtEnd
      "\x7ba:12345" := by
    intro atEnd
    cases atEnd
  exact ⟨failed, (parse_append_of_failed failed stays "6\x7d").1⟩

end Template

end UriTemplate
