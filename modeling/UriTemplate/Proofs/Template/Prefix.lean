import UriTemplate.Proofs.Template.Acceptance

/-!
# Beginnings of templates

A reader that has come to some place without stopping has read the beginning of a template, and
where it stands says how that beginning is made up: derived pieces, then as much of an expression
as there is. The beginnings behind which a name is expected are of particular interest, since a
modifier is all that the lexer lets through there and the parser does not provide for.
-/

set_option autoImplicit false

namespace UriTemplate

open Grammar

namespace Grammar

/-! ## Beginnings -/

/-- The beginning of a template up to where a variable begins: behind the brace and the operator
of an expression, or behind a comma. -/
inductive BeforeVariable : Text → Prop where
  | opening {text : Text} (operator : Operator) : Derivable text →
      BeforeVariable (text ++ ('\x7b' : CodePoint) :: operator.symbol)
  | comma {text spelled : Text} {var : Variable} : BeforeVariable text →
      VariableText spelled var → BeforeVariable (text ++ (spelled ++ ([','] : Text)))

/-- The beginning of a template up to where nothing but a name may stand: behind the symbol of an
operator, behind a comma, or behind a dot. -/
inductive NameExpected : Text → Prop where
  | operator {text : Text} {operator : Operator} : Derivable text → operator ≠ .simple →
      NameExpected (text ++ ('\x7b' : CodePoint) :: operator.symbol)
  | comma {text spelled : Text} {var : Variable} : BeforeVariable text →
      VariableText spelled var → NameExpected (text ++ (spelled ++ ([','] : Text)))
  | dot {text names : Text} {path : List Text} : BeforeVariable text → PathText names path →
      NameExpected (text ++ (names ++ (['.'] : Text)))

/-- The characters that begin a modifier, with the types of their tokens. -/
inductive ModifierMark : CodePoint → TokenType → Prop where
  | star : ModifierMark '*' .explode
  | colon : ModifierMark ':' .colon

/-- A template in which a modifier stands where a name is expected. -/
def HasMisplacedModifier (template : Text) : Prop :=
  ∃ before mark type after, template = before ++ mark :: after ∧ NameExpected before ∧
    ModifierMark mark type

variable {text before name : Text} {path : List Text}

/-- Variables and the closing brace complete an expression. -/
theorem BeforeVariable.closed {vars : List Variable} (begins : BeforeVariable before)
    (list : VariablesText text vars) : Derivable (before ++ (text ++ (['\x7d'] : Text))) := by
  induction begins generalizing text vars with
  | @opening before operator derived =>
      have expression : ExpressionText _ ⟨operator, vars, list.ne_nil⟩ := .mk list
      have whole := derived.append (PieceText.expression expression).derivable
      simpa using whole
  | @comma before spelled var _ derived ih =>
      have whole := ih (.comma derived list)
      simpa using whole

/-- Names with a dot behind each of them. -/
def dotted (path : List Text) : Text :=
  path.flatMap fun name => name ++ (['.'] : Text)

theorem dotted_concat (path : List Text) (name : Text) :
    dotted (path ++ [name]) = dotted path ++ (name ++ (['.'] : Text)) := by
  rw [dotted, List.flatMap_append, List.flatMap_singleton, ← dotted]

theorem pathText_dotted (names : ∀ other ∈ path, IsName other) (isName : IsName name) :
    PathText (dotted path ++ name) (path ++ [name]) := by
  induction path with
  | nil => exact .single isName
  | cons first rest ih =>
      have longer := PathText.dot (names first (by simp))
        (ih fun other member => names other (by simp [member]))
      simpa [dotted] using longer

end Grammar

/-! ## What a reader has read -/

namespace Reader

/-- The texts behind which a reader stands where it does. -/
def Behind : Reader → Text → Prop
  | outside _ _, text => Derivable text
  | percent _ _, text => ∃ before, text = before ++ (['%'] : Text) ∧ Derivable before
  | triplet _ _ high, text => ∃ before, text = before ++ (['%', high] : Text) ∧ Derivable before
  | opening _, text => ∃ before, text = before ++ (['\x7b'] : Text) ∧ Derivable before
  | awaiting _ path, text => ∃ before, text = before ++ dotted path ∧ BeforeVariable before ∧
      (∀ name ∈ path, IsName name) ∧ (path = [] → NameExpected before)
  | name _ path last, text => ∃ before, text = before ++ (dotted path ++ last) ∧
      BeforeVariable before ∧ (∀ name ∈ path, IsName name) ∧ IsName last
  | colon _ var, text => ∃ before names, text = before ++ (names ++ ([':'] : Text)) ∧
      BeforeVariable before ∧ PathText names var.path
  | digits _ var length, text => ∃ before names,
      text = before ++ (names ++ (':' : CodePoint) :: length.text) ∧ BeforeVariable before ∧
      PathText names var.path
  | exploded _ var, text => ∃ before spelled, text = before ++ spelled ∧
      BeforeVariable before ∧ VariableText spelled var

variable {draft : Draft} {path : List Text} {var : Variable} {position : Nat}
  {point : CodePoint} {following : Reader} {text before : Text}

/-- Behind a variable there may be the closing brace or a comma. -/
theorem behind_close {spelled : Text} (begins : BeforeVariable before)
    (derived : VariableText spelled var) :
    (close draft var).Behind (before ++ spelled ++ (['\x7d'] : Text)) := by
  rw [List.append_assoc]
  exact begins.closed (.single derived)

theorem behind_next {spelled : Text} (begins : BeforeVariable before)
    (derived : VariableText spelled var) :
    (next draft var).Behind (before ++ spelled ++ ([','] : Text)) := by
  rw [List.append_assoc]
  refine ⟨_, (List.append_nil _).symm, .comma begins derived, by simp, fun _ => ?_⟩
  exact .comma begins derived

/-- A reader inside a name has read a variable, if the name goes no further. -/
theorem variableText_of_name {name : Text} (names : ∀ other ∈ path, IsName other)
    (isName : IsName name) :
    VariableText (dotted path ++ name) (variableOf path name) := by
  have derived : VariableText (dotted path ++ name ++ []) (variableOf path name) :=
    .mk (pathText_dotted names isName) .none
  rwa [List.append_nil] at derived

/-- A reader inside a length has read a variable, if the length goes no further. -/
theorem variableText_of_digits {names : Text} (length : LengthDigits)
    (path : PathText names var.path) :
    VariableText (names ++ (':' : CodePoint) :: length.text) (withLength var length) :=
  .mk path (.maxLength length.isLength rfl)

/-- A step puts one more code point behind a reader. -/
theorem behind_of_step {reader : Reader} (behind : reader.Behind text)
    (stepped : reader.step position point = .ok following) :
    following.Behind (text ++ [point]) := by
  cases takes_of_step stepped with
  | slash => exact Derivable.append behind PieceText.slash.derivable
  | percent => exact ⟨text, rfl, behind⟩
  | brace => exact ⟨text, rfl, behind⟩
  | literal legal =>
      exact Derivable.append behind (PieceText.point (isLiteral_iff.mpr legal)).derivable
  | high =>
      rcases behind with ⟨before, rfl, derived⟩
      exact ⟨before, List.append_assoc _ _ _, derived⟩
  | low spelled =>
      rcases behind with ⟨before, rfl, derived⟩
      rw [List.append_assoc]
      exact derived.append (PieceText.triplet spelled).derivable
  | simple names =>
      rcases behind with ⟨before, rfl, derived⟩
      exact ⟨_, rfl, .opening .simple derived, by simp, .single names⟩
  | @operator _ _ operator symbol =>
      rcases behind with ⟨before, rfl, derived⟩
      have notSimple : operator ≠ .simple := by
        intro simple
        rw [simple] at symbol
        cases symbol
      refine ⟨before ++ ('\x7b' : CodePoint) :: operator.symbol, ?_, .opening operator derived,
        by simp, fun _ => .operator derived notSimple⟩
      rw [symbol, dotted, List.flatMap_nil, List.append_nil, List.append_assoc]
      rfl
  | nameBegins nameChar =>
      rcases behind with ⟨before, rfl, begins, names, _⟩
      exact ⟨before, List.append_assoc _ _ _, begins, names, .single nameChar⟩
  | nameGoesOn nameChar =>
      rcases behind with ⟨before, rfl, begins, names, isName⟩
      refine ⟨before, ?_, begins, names, isName.push nameChar⟩
      simp only [List.append_assoc]
  | nameCloses =>
      rcases behind with ⟨before, rfl, begins, names, isName⟩
      exact behind_close begins (variableText_of_name names isName)
  | nameEnds =>
      rcases behind with ⟨before, rfl, begins, names, isName⟩
      exact behind_next begins (variableText_of_name names isName)
  | dot =>
      rcases behind with ⟨before, rfl, begins, names, isName⟩
      refine ⟨before, ?_, begins, ?_, by simp⟩
      · rw [dotted_concat]
        simp only [List.append_assoc]
      · intro other member
        rcases List.mem_append.mp member with inside | last
        · exact names other inside
        · rw [List.mem_singleton.mp last]
          exact isName
  | star =>
      rcases behind with ⟨before, rfl, begins, names, isName⟩
      exact ⟨before, _, List.append_assoc _ _ _, begins,
        .mk (pathText_dotted names isName) .explode⟩
  | colon =>
      rcases behind with ⟨before, rfl, begins, names, isName⟩
      exact ⟨before, _, List.append_assoc _ _ _, begins, pathText_dotted names isName⟩
  | lengthBegins =>
      rcases behind with ⟨before, names, rfl, begins, path⟩
      refine ⟨before, names, ?_, begins, path⟩
      simp only [List.append_assoc]
      rfl
  | lengthGoesOn =>
      rcases behind with ⟨before, names, rfl, begins, path⟩
      refine ⟨before, names, ?_, begins, path⟩
      simp only [List.append_assoc, List.cons_append]
      rfl
  | @lengthCloses _ _ length =>
      rcases behind with ⟨before, names, rfl, begins, path⟩
      exact behind_close begins (variableText_of_digits length path)
  | @lengthEnds _ _ length =>
      rcases behind with ⟨before, names, rfl, begins, path⟩
      exact behind_next begins (variableText_of_digits length path)
  | starCloses =>
      rcases behind with ⟨before, spelled, rfl, begins, derived⟩
      exact behind_close begins derived
  | starEnds =>
      rcases behind with ⟨before, spelled, rfl, begins, derived⟩
      exact behind_next begins derived

/-- What is read is behind the reader, by induction on the text. -/
theorem behind_of_feed {reader : Reader} {more : Text} (behind : reader.Behind text)
    (fed : reader.feed position more = .ok following) : following.Behind (text ++ more) := by
  induction more generalizing reader text position with
  | nil =>
      cases fed
      rw [List.append_nil]
      exact behind
  | cons point more ih =>
      rcases exists_of_feed_cons fed with ⟨there, stepped, fed⟩
      rw [List.append_cons]
      exact ih (behind_of_step behind stepped) fed

/-! ## Where a name is expected -/

/-- Where a reader waits for a name, one is expected. -/
theorem Behind.nameExpected (behind : (awaiting draft path).Behind text) : NameExpected text := by
  rcases behind with ⟨before, rfl, begins, names, atVariable⟩
  rcases List.eq_nil_or_concat path with rfl | ⟨init, last, rfl⟩
  · rw [dotted, List.flatMap_nil, List.append_nil]
    exact atVariable rfl
  · rw [List.concat_eq_append] at names ⊢
    have whole : PathText (dotted init ++ last) (init ++ [last]) :=
      pathText_dotted (fun other member => names other (by simp [member])) (names last (by simp))
    rw [dotted_concat, ← List.append_assoc (dotted init)]
    exact .dot begins whole

/-- Derived text and a brace lead a reader into an expression. -/
theorem feed_brace (derived : Derivable text) :
    ∃ parts, Reader.start.feed 0 (text ++ (['\x7b'] : Text)) = .ok (.opening parts) := by
  rcases derived with ⟨pieces, derived⟩
  have assembled : Assembled [] [] [] := .ofClosed (by simp)
  rcases feed_derived assembled derived 0 with ⟨parts, bytes, fed, _⟩
  refine ⟨withLiteral parts bytes, ?_⟩
  rw [Reader.start, feed_append_of_feed fed, feed_singleton]
  rfl

/-- The symbol of an operator leads it on to where it waits for a name. -/
theorem feed_operator (derived : Derivable text) {operator : Operator}
    (notSimple : operator ≠ .simple) :
    ∃ parts, Reader.start.feed 0 (text ++ ('\x7b' : CodePoint) :: operator.symbol) =
      .ok (.awaiting ⟨parts, operator, []⟩ []) := by
  rcases feed_brace derived with ⟨parts, fed⟩
  refine ⟨parts, ?_⟩
  rw [List.append_cons, feed_append_of_feed fed]
  cases operator with
  | simple => contradiction
  | _ => rfl

/-- A reader takes up a variable if it reads it like one that waits for a name. -/
def TakesUp (reader : Reader) (draft : Draft) : Prop :=
  ∀ position text, BeginsName text →
    reader.feed position text = (awaiting draft []).feed position text

theorem TakesUp.feed_comma {reader : Reader} (takesUp : reader.TakesUp draft) {spelled : Text}
    (derived : VariableText spelled var) (position : Nat) :
    reader.feed position (spelled ++ ([','] : Text)) = .ok (next draft var) := by
  rcases feed_variable draft derived position with ⟨there, read, ends⟩
  have begins : BeginsName spelled := by
    cases derived with
    | mk path _ => exact path.begins.append _
  rw [feed_append_of_feed ((takesUp _ _ begins).trans read), feed_singleton, ends.step_comma]

/-- Behind the beginning of a template up to a variable, a reader takes up the variable. -/
theorem feed_beforeVariable (begins : BeforeVariable before) :
    ∃ reader draft, Reader.start.feed 0 before = .ok reader ∧ reader.TakesUp draft := by
  induction begins with
  | @opening before operator derived =>
      -- Right behind a brace a reader does not wait for a name yet, but reads one in the same way.
      by_cases simple : operator = .simple
      · rcases feed_brace derived with ⟨parts, fed⟩
        subst simple
        exact ⟨_, _, fed, fun position text begins => feed_symbol parts .simple begins position⟩
      · rcases feed_operator derived simple with ⟨parts, fed⟩
        exact ⟨_, _, fed, fun _ _ _ => rfl⟩
  | @comma before spelled var _ derived ih =>
      rcases ih with ⟨reader, draft, fed, takesUp⟩
      have read := (feed_append_of_feed fed _).trans (takesUp.feed_comma derived _)
      exact ⟨_, { draft with vars := draft.vars ++ [var] }, read, fun _ _ _ => rfl⟩

/-- Where a name is expected, a reader waits for one. -/
theorem feed_nameExpected (expected : NameExpected text) :
    ∃ draft path, Reader.start.feed 0 text = .ok (.awaiting draft path) := by
  cases expected with
  | operator derived notSimple =>
      rcases feed_operator derived notSimple with ⟨parts, fed⟩
      exact ⟨_, _, fed⟩
  | comma begins derived =>
      rcases feed_beforeVariable begins with ⟨reader, draft, fed, takesUp⟩
      exact ⟨_, _, (feed_append_of_feed fed _).trans (takesUp.feed_comma derived _)⟩
  | @dot before names path begins derived =>
      rcases feed_beforeVariable begins with ⟨reader, draft, fed, takesUp⟩
      rcases feed_path draft [] derived (0 + before.length) with ⟨init, last, _, read⟩
      refine ⟨draft, [] ++ init ++ [last], ?_⟩
      rw [feed_append_of_feed fed,
        feed_append_of_feed ((takesUp _ _ derived.begins).trans read), feed_singleton]
      rfl

end Reader

end UriTemplate
