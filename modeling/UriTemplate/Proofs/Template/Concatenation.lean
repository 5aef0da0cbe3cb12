import UriTemplate.Proofs.Template.Canonical
import UriTemplate.Proofs.Template.Failure

/-!
# Templates one behind the other

Behind an accepted template the reader stands outside expressions again, as it did at the
beginning. Only what it has put together is different, and no step looks at that to tell whether
a code point may stand where it does. So a text behind an accepted template is accepted or
rejected as it would be alone, at places that are further behind by the length of the template.

The parts of both are put one behind the other. Where they meet, two separators are one, and two
literals are one with the text of all their bytes.
-/

set_option autoImplicit false

namespace UriTemplate

open Grammar

/-- Two neighbours as one part, if they belong to one. -/
def Part.merge? : Part → Part → Option Part
  | literal left, literal right =>
      some (.literal (Utf8.decode .strayBytes
        (Utf8.encode .strayBytes left ++ Utf8.encode .strayBytes right)))
  | separator, separator => some .separator
  | _, _ => none

/-- The one part that the last part of a template and the first part of another one are, if they
belong to one. -/
def Template.seam? (left right : Template) : Option Part :=
  left.parts.getLast?.bind fun last => right.parts.head?.bind last.merge?

/-- One template behind another. -/
def Template.append (left right : Template) : Template :=
  match left.seam? right with
  | some merged => ⟨left.parts.dropLast ++ merged :: right.parts.tail⟩
  | none => ⟨left.parts ++ right.parts⟩

namespace Grammar.Piece

variable {left right : List Piece} {first other : Piece} {rest more : List Piece}

/-- Where pieces meet that join, the runs that they are in are one run. -/
theorem splitBy_append_of_joins {before after : List (List Piece)}
    (leftRuns : left.splitBy joins = before ++ [first :: rest])
    (rightRuns : right.splitBy joins = (other :: more) :: after)
    (related : joins first other = true) :
    (left ++ right).splitBy joins = before ++ (first :: rest ++ other :: more) :: after := by
  rcases List.splitBy_eq_iff.mp leftRuns with ⟨leftWhole, leftNonempty, leftChains, leftApart⟩
  rcases List.splitBy_eq_iff.mp rightRuns with ⟨rightWhole, rightNonempty, rightChains, rightApart⟩
  have leftChain := leftChains (first :: rest) (by simp)
  have joined : (first :: rest ++ other :: more).IsChain
      fun left right => joins left right = true := by
    refine leftChain.append (rightChains (other :: more) (by simp)) ?_
    intro last isLast piece isFirst
    rw [List.getLast?_eq_getLast_of_ne_nil (List.cons_ne_nil _ _), Option.mem_some_iff] at isLast
    rw [List.head?_cons, Option.mem_some_iff] at isFirst
    rw [← isLast, ← isFirst, joins_getLast leftChain]
    exact related
  rw [List.splitBy_eq_iff]
  refine ⟨?_, ?_, ?_, ?_⟩
  · rw [leftWhole, rightWhole]
    simp
  · simp_all
  · intro run member
    rcases List.mem_append.mp member with inside | inside
    · exact leftChains run (by simp [inside])
    rcases List.mem_cons.mp inside with rfl | inside
    · exact joined
    · exact rightChains run (by simp [inside])
  -- The joined run begins like the one and ends like the other, so it is as far apart from its
  -- neighbours as they are.
  · rw [List.isChain_append] at leftApart ⊢
    rw [List.isChain_cons] at rightApart ⊢
    refine ⟨leftApart.1, ⟨?_, rightApart.2⟩, ?_⟩
    · intro run isFirst
      rcases rightApart.1 run isFirst with ⟨_, nonempty, apart⟩
      refine ⟨by simp, nonempty, ?_⟩
      rw [List.getLast_append_of_ne_nil (by simp)]
      exact apart
    · intro run isLast merged isFirst
      cases isFirst
      rcases leftApart.2.2 run isLast _ rfl with ⟨nonempty, _, apart⟩
      exact ⟨nonempty, by simp, apart⟩

/-- The parts of two runs are one part exactly if the runs join, and then it is the part of both
runs together. -/
theorem merge?_partOfRun (first other : Piece) (rest more : List Piece) :
    (partOfRun (first :: rest)).merge? (partOfRun (other :: more)) =
      if joins first other then some (partOfRun (first :: rest ++ other :: more)) else none := by
  cases first with
  | slash => cases other <;> rfl
  | expression body => cases other <;> rfl
  | literal bytes =>
      cases other with
      | slash => rfl
      | expression body => rfl
      | literal bytes =>
          simp only [partOfRun, Part.merge?, Utf8.encode_decode, joins, if_true,
            List.cons_append, List.flatMap_cons, List.flatMap_append, List.append_assoc]

/-- Pieces that are there begin and end with a run. -/
theorem exists_firstRun (nonempty : right ≠ []) :
    ∃ other more after, right.splitBy joins = (other :: more) :: after := by
  have someRuns : right.splitBy joins ≠ [] := List.splitBy_ne_nil.mpr nonempty
  rcases List.exists_cons_of_ne_nil someRuns with ⟨run, after, runs⟩
  have member : run ∈ right.splitBy joins := by simp [runs]
  rcases List.exists_cons_of_ne_nil (List.ne_nil_of_mem_splitBy member) with ⟨other, more, rfl⟩
  exact ⟨other, more, after, runs⟩

theorem exists_lastRun (nonempty : left ≠ []) :
    ∃ first rest before, left.splitBy joins = before ++ [first :: rest] := by
  rcases List.eq_nil_or_concat (left.splitBy joins) with empty | ⟨before, run, runs⟩
  · exact absurd empty (List.splitBy_ne_nil.mpr nonempty)
  rw [List.concat_eq_append] at runs
  have member : run ∈ left.splitBy joins := by simp [runs]
  rcases List.exists_cons_of_ne_nil (List.ne_nil_of_mem_splitBy member) with ⟨first, rest, rfl⟩
  exact ⟨first, rest, before, runs⟩

/-- Pieces meet as the runs do that they are in. -/
theorem joins_eq_of_runs {before after : List (List Piece)}
    (leftRuns : left.splitBy joins = before ++ [first :: rest])
    (rightRuns : right.splitBy joins = (other :: more) :: after) :
    ∀ last ∈ left.getLast?, ∀ piece ∈ right.head?, joins last piece = joins first other := by
  intro last isLast piece isFirst
  have chain := List.isChain_of_mem_splitBy (show first :: rest ∈ left.splitBy joins by
    simp [leftRuns])
  rw [← List.flatten_splitBy joins left, leftRuns, List.flatten_append, List.flatten_singleton,
    List.getLast?_append_of_ne_nil _ (List.cons_ne_nil _ _),
    List.getLast?_eq_getLast_of_ne_nil (List.cons_ne_nil _ _), Option.mem_some_iff] at isLast
  rw [← List.flatten_splitBy joins right, rightRuns, List.flatten_cons, List.cons_append,
    List.head?_cons, Option.mem_some_iff] at isFirst
  rw [← isLast, ← isFirst, joins_getLast chain]

/-- The parts of pieces one behind the other. -/
theorem append_parts (left right : List Piece) :
    Template.append ⟨parts left⟩ ⟨parts right⟩ = ⟨parts (left ++ right)⟩ := by
  rcases eq_or_ne left [] with rfl | leftNonempty
  · rfl
  rcases eq_or_ne right [] with rfl | rightNonempty
  · simp [Template.append, Template.seam?, parts]
  rcases exists_lastRun leftNonempty with ⟨first, rest, before, leftRuns⟩
  rcases exists_firstRun rightNonempty with ⟨other, more, after, rightRuns⟩
  have seam : Template.seam? ⟨parts left⟩ ⟨parts right⟩ =
      if joins first other then some (partOfRun (first :: rest ++ other :: more)) else none := by
    rw [← merge?_partOfRun, Template.seam?, parts, parts, leftRuns, rightRuns]
    simp
  rw [Template.append, seam]
  by_cases related : joins first other = true
  · rw [if_pos related]
    simp [parts, splitBy_append_of_joins leftRuns rightRuns related, leftRuns, rightRuns]
  · rw [if_neg related, parts_append]
    intro last isLast piece isFirst
    rw [joins_eq_of_runs leftRuns rightRuns last isLast piece isFirst]
    exact Bool.not_eq_true _ ▸ related

end Grammar.Piece

/-! ## Reading further behind -/

/-- The same halt at a place that is further behind. -/
def Halt.moved (offset : Nat) : Halt → Halt
  | rejected cause position => .rejected cause (position + offset)
  | undefinedState state token =>
      .undefinedState state { token with position := token.position + offset }

namespace Reader

/-- How reading goes at two places: it halts in the same way, or it goes on at both. -/
inductive Moved {α β : Type} (offset : Nat) (related : α → β → Prop) :
    Except Halt α → Except Halt β → Prop where
  | ok {left : α} {right : β} : related left right → Moved offset related (.ok left) (.ok right)
  | error (halt : Halt) : Moved offset related (.error halt) (.error (halt.moved offset))

/-- Two readers at a position that go on alike, though what they have put together may be
different. A reader of a triplet is not at the beginning. -/
inductive Alike : Nat → Reader → Reader → Prop where
  | outside (position : Nat) (parts others : List Part) (bytes more : List UInt8) :
      Alike position (.outside parts bytes) (.outside others more)
  | percent (before : Nat) (parts others : List Part) (bytes more : List UInt8) :
      Alike (before + 1) (.percent parts bytes) (.percent others more)
  | triplet (before : Nat) (parts others : List Part) (bytes more : List UInt8)
      (high : CodePoint) :
      Alike (before + 2) (.triplet parts bytes high) (.triplet others more high)
  | opening (position : Nat) (parts others : List Part) :
      Alike position (.opening parts) (.opening others)
  | awaiting (position : Nat) (draft other : Draft) (path names : List Text) :
      Alike position (.awaiting draft path) (.awaiting other names)
  | name (position : Nat) (draft other : Draft) (path names : List Text) (text last : Text) :
      Alike position (.name draft path text) (.name other names last)
  | colon (position : Nat) (draft other : Draft) (var variant : Variable) :
      Alike position (.colon draft var) (.colon other variant)
  | digits (position : Nat) (draft other : Draft) (var variant : Variable)
      (length : LengthDigits) :
      Alike position (.digits draft var length) (.digits other variant length)
  | exploded (position : Nat) (draft other : Draft) (var variant : Variable) :
      Alike position (.exploded draft var) (.exploded other variant)

section Moved

variable {α β γ δ : Type} {offset position : Nat} {related : α → β → Prop}
  {results : γ → δ → Prop}

theorem Moved.bind {left : Except Halt α} {right : Except Halt β}
    {next : α → Except Halt γ} {following : β → Except Halt δ}
    (moved : Moved offset related left right)
    (goesOn : ∀ first second, related first second →
      Moved offset results (next first) (following second)) :
    Moved offset results (left.bind next) (right.bind following) := by
  cases moved with
  | ok agree => exact goesOn _ _ agree
  | error halt => exact .error halt

theorem Moved.lexical (fault : LexicalFault) (position : Nat) :
    Moved offset related (.error (.lexical fault position))
      (.error (.lexical fault (position + offset))) :=
  .error (.lexical fault position)

theorem Moved.rejected (cause : ParseError.Cause) (position : Nat) :
    Moved offset related (.error (.rejected cause position))
      (.error (.rejected cause (position + offset : Nat))) :=
  .error (.rejected cause position)

end Moved

variable {offset position : Nat} {point : CodePoint}

theorem moved_outside (parts others : List Part) (bytes more : List UInt8) :
    Moved offset (Alike (position + 1)) (stepOutside parts bytes position point)
      (stepOutside others more (position + offset) point) := by
  simp only [stepOutside]
  split_ifs
  · exact .ok (.outside ..)
  · exact .ok (.percent ..)
  · exact .ok (.opening ..)
  · exact .ok (.outside ..)
  · exact .lexical _ _

theorem moved_triplet (before : Nat) (parts others : List Part) (bytes more : List UInt8)
    (high : CodePoint) :
    Moved offset (Alike (before + 2 + 1)) (stepTriplet parts bytes high (before + 2) point)
      (stepTriplet others more high (before + 2 + offset) point) := by
  simp only [stepTriplet]
  cases high.hexByte? point with
  | some byte => exact .ok (.outside ..)
  | none =>
      -- The complaint may be about the first digit, and there is always room to go back to it.
      have back : before + 2 + offset - 1 = before + 2 - 1 + offset := by omega
      rw [back]
      split_ifs
      · exact .lexical _ _
      · exact .lexical _ _

theorem moved_opening (parts others : List Part) :
    Moved offset (Alike (position + 1)) (stepOpening parts position point)
      (stepOpening others (position + offset) point) := by
  simp only [stepOpening]
  cases Operator.ofSymbol? [point] with
  | some operator =>
      dsimp only
      split_ifs
      · exact .lexical _ _
      · exact .ok (.name ..)
      · exact .ok (.awaiting ..)
  | none =>
      dsimp only
      split_ifs
      · exact .lexical _ _
      · exact .ok (.name ..)
      · exact .lexical _ _
      · exact .lexical _ _

theorem moved_awaiting (draft other : Draft) (path names : List Text) :
    Moved offset (Alike (position + 1)) (stepAwaiting draft path position point)
      (stepAwaiting other names (position + offset) point) := by
  simp only [stepAwaiting]
  split_ifs
  · exact .ok (.name ..)
  · exact .rejected _ _
  · exact .error (.undefinedState ..)
  · exact .error (.undefinedState ..)
  · exact .lexical _ _

theorem moved_name (draft other : Draft) (path names : List Text) (text last : Text) :
    Moved offset (Alike (position + 1)) (stepName draft path text position point)
      (stepName other names last (position + offset) point) := by
  simp only [stepName]
  split_ifs
  · exact .ok (.name ..)
  · exact .ok (.outside ..)
  · exact .ok (.awaiting ..)
  · exact .ok (.awaiting ..)
  · exact .ok (.exploded ..)
  · exact .ok (.colon ..)
  · exact .lexical _ _

theorem moved_colon (draft other : Draft) (var variant : Variable) :
    Moved offset (Alike (position + 1)) (stepColon draft var position point)
      (stepColon other variant (position + offset) point) := by
  simp only [stepColon]
  split_ifs
  · exact .ok (.digits ..)
  · exact .lexical _ _

theorem moved_modified (draft other : Draft) (var variant : Variable) :
    Moved offset (Alike (position + 1)) (stepModified draft var position point)
      (stepModified other variant (position + offset) point) := by
  simp only [stepModified]
  split_ifs
  · exact .rejected _ _
  · exact .ok (.outside ..)
  · exact .rejected _ _
  · exact .ok (.awaiting ..)
  · exact .rejected _ _
  · exact .lexical _ _

theorem moved_digits (draft other : Draft) (var variant : Variable) (length : LengthDigits) :
    Moved offset (Alike (position + 1)) (stepDigits draft var length position point)
      (stepDigits other variant length (position + offset) point) := by
  simp only [stepDigits]
  split_ifs
  · exact .ok (.digits ..)
  · have back : ((position + offset : Nat) : Int) - length.text.length =
        (position : Int) - length.text.length + offset := by omega
    rw [back]
    exact .error (.rejected ..)
  · exact moved_modified ..

/-- Readers that are alike take the same code points, and are alike behind them. -/
theorem Alike.step {reader other : Reader} (alike : Alike position reader other)
    (point : CodePoint) :
    Moved offset (Alike (position + 1)) (reader.step position point)
      (other.step (position + offset) point) := by
  cases alike with
  | outside => exact moved_outside ..
  | percent => exact .ok (.triplet ..)
  | triplet => exact moved_triplet ..
  | opening => exact moved_opening ..
  | awaiting => exact moved_awaiting ..
  | name => exact moved_name ..
  | colon => exact moved_colon ..
  | digits => exact moved_digits ..
  | exploded => exact moved_modified ..

/-- Readers that are alike end alike. -/
theorem Alike.finish {reader other : Reader} (alike : Alike position reader other) :
    Moved offset (fun _ _ => True) (reader.finish position)
      (other.finish (position + offset)) := by
  cases alike with
  | outside => exact .ok trivial
  | percent before =>
      have back : before + 1 + offset - 1 = before + 1 - 1 + offset := by omega
      rw [Reader.finish, Reader.finish, back]
      exact .lexical _ _
  | triplet before =>
      have back : before + 2 + offset - 2 = before + 2 - 2 + offset := by omega
      rw [Reader.finish, Reader.finish, back]
      exact .lexical _ _
  | _ => exact .lexical _ _

/-- Readers that are alike read a text alike, by induction on the text. -/
theorem Alike.read {reader other : Reader} (alike : Alike position reader other) (text : Text) :
    Moved offset (fun _ _ => True) (reader.read position text)
      (other.read (position + offset) text) := by
  induction text generalizing reader other position with
  | nil =>
      rw [read_nil, read_nil]
      exact alike.finish
  | cons point rest ih =>
      rw [read_cons, read_cons]
      refine (alike.step point).bind fun first second agree => ?_
      rw [Nat.add_right_comm]
      exact ih agree

end Reader

/-- A failure on a text, as it is on a template that has the text behind another one. -/
def Parser.Failure.behind (before : Text) : Parser.Failure → Parser.Failure
  | rejected error =>
      .rejected ⟨error.cause, error.position + before.length, before ++ error.template⟩
  | undefinedState state token =>
      .undefinedState state { token with position := token.position + before.length }
  | failure => failure

theorem Halt.failure_moved (halt : Halt) (before text : Text) :
    (halt.moved before.length).failure (before ++ text) = (halt.failure text).behind before := by
  cases halt <;> rfl

namespace Template

variable {left right : Text} {first : Template}

/-- Behind an accepted template the reader is outside expressions. -/
theorem feed_of_parse (parsed : parse left = .ok first) :
    ∃ parts bytes, Reader.start.feed 0 left = .ok (.outside parts bytes) := by
  rcases derivable_of_parse parsed with ⟨pieces, derived⟩
  have assembled : Assembled [] [] [] := .ofClosed (by simp)
  rcases Reader.feed_derived assembled derived 0 with ⟨parts, bytes, fed, _⟩
  exact ⟨parts, bytes, fed⟩

/-- Templates that are accepted alone are accepted together. -/
theorem parse_append_of_ok (parsed : parse left = .ok first) {second : Template}
    (accepted : parse right = .ok second) : parse (left ++ right) = .ok (first.append second) := by
  rcases (parse_eq_ok_iff_derives _ _).mp parsed with ⟨leftPieces, leftDerived, rfl⟩
  rcases (parse_eq_ok_iff_derives _ _).mp accepted with ⟨rightPieces, rightDerived, rfl⟩
  rw [Piece.append_parts]
  exact parse_of_derives (leftDerived.append rightDerived)

/-- What fails alone fails in the same way behind an accepted template. -/
theorem parse_append_of_error (parsed : parse left = .ok first) {failure : Parser.Failure}
    (failed : parse right = .error failure) :
    parse (left ++ right) = .error (failure.behind left) := by
  rcases feed_of_parse parsed with ⟨parts, bytes, fed⟩
  have alike : Reader.Alike 0 .start (.outside parts bytes) := .outside ..
  have moved : Reader.Moved left.length (fun _ _ => True) (Reader.start.read 0 right)
      (Reader.start.read 0 (left ++ right)) := by
    rw [Reader.read_append_of_feed fed]
    exact alike.read right
  rw [parse_eq_read] at failed ⊢
  cases read : Reader.start.read 0 right with
  | ok second =>
      rw [read] at failed
      cases failed
  | error halt =>
      rw [read] at failed moved
      cases failed
      cases whole : Reader.start.read 0 (left ++ right) with
      | ok second =>
          rw [whole] at moved
          cases moved
      | error other =>
          rw [whole] at moved
          cases moved
          exact congrArg Except.error (halt.failure_moved left right)

/-- Parsing is compositional: behind an accepted template a text is accepted if it is accepted
alone, with the parts of both, and it is rejected if it is rejected alone, for the same cause and
at a position that is further behind by the length of the template. -/
theorem parse_append (parsed : parse left = .ok first) (right : Text) :
    (∀ second, parse right = .ok second → parse (left ++ right) = .ok (first.append second)) ∧
      ∀ error, parse right = .error (.rejected error) → parse (left ++ right) =
        .error (.rejected ⟨error.cause, error.position + left.length, left ++ right⟩) := by
  constructor
  · intro second accepted
    exact parse_append_of_ok parsed accepted
  · intro error rejected
    rw [parse_append_of_error parsed rejected]
    rcases rejected_or_undefinedState rejected with ⟨cause, position, same⟩ | ⟨state, token, same⟩
    · cases same
      rfl
    · cases same

/-- The two bytes of a character may be in two templates. -/
theorem parse_append_character :
    parse "a%C3%A9/b" = .ok ⟨[.literal "aé", .separator, .literal "b"]⟩ ∧
      parse "a%C3%A9\x7b+\x7d" =
        .error (.rejected ⟨.expectedVariable, 9, "a%C3%A9\x7b+\x7d"⟩) := by
  have first : parse "a%C3" = .ok ⟨[.literal [('a' : Char), .ofStrayByte 0xC3]]⟩ := by
    rw [parse_eq_read]
    decide +kernel
  have second : parse "%A9/b" =
      .ok ⟨[.literal [.ofStrayByte 0xA9], .separator, .literal "b"]⟩ := by
    rw [parse_eq_read]
    decide +kernel
  have rejected : parse "%A9\x7b+\x7d" =
      .error (.rejected ⟨.expectedVariable, 5, "%A9\x7b+\x7d"⟩) := by
    rw [parse_eq_read]
    decide +kernel
  constructor
  · rw [show ("a%C3%A9/b" : Text) = ("a%C3" : Text) ++ ("%A9/b" : Text) from rfl,
      (parse_append first _).1 _ second]
    decide +kernel
  · exact (parse_append first _).2 _ rejected

end Template

end UriTemplate
