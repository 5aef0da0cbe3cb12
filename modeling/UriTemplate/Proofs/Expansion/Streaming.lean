import UriTemplate.Sink
import UriTemplate.Proofs.Expansion.Failure

/-!
# Writing an expansion to a sink

The chunks of a template are what its parts expand to where that is not empty. They are written to a
sink while the template is expanded, and it makes no difference that both go on at the same time: a
sink is written all chunks in order up to the first that it does not take. That one it refuses, and
nothing is written behind it.
-/

set_option autoImplicit false

namespace UriTemplate

/-! ## Sinks that fail -/

namespace Sink

variable {sink : Sink} {taken : Nat} {fault : Fault}

/-- A sink that took some more chunks. -/
def accept (sink : Sink) (chunks : List Text) : Sink :=
  { sink with written := sink.written ++ chunks }

/-- A sink that refused one more chunk. -/
def refuse (sink : Sink) (chunk : Text) : Sink :=
  { sink with refused := sink.refused ++ [chunk] }

/-- A sink that takes every write. -/
def NeverFails (sink : Sink) : Prop :=
  ∀ chunks, (sink.accept chunks).fault? = none

/-- A sink that takes a number of writes, and answers each further one with a fault. -/
def FailsAfter (sink : Sink) (taken : Nat) (fault : Fault) : Prop :=
  ∀ chunks, (sink.accept chunks).fault? = if chunks.length < taken then none else some fault

/-- A sink that takes at least a number of writes. -/
def Takes (sink : Sink) (count : Nat) : Prop :=
  ∀ chunks, chunks.length < count → (sink.accept chunks).fault? = none

@[simp] theorem accept_nil (sink : Sink) : sink.accept [] = sink := by
  rw [accept, List.append_nil]

theorem accept_accept (sink : Sink) (first second : List Text) :
    (sink.accept first).accept second = sink.accept (first ++ second) := by
  simp only [accept, List.append_assoc]

theorem NeverFails.takes (never : sink.NeverFails) (count : Nat) : sink.Takes count :=
  fun chunks _ => never chunks

theorem FailsAfter.takes (fails : sink.FailsAfter taken fault) {count : Nat}
    (within : count ≤ taken) : sink.Takes count := by
  intro chunks shorter
  rw [fails chunks, if_pos (Nat.lt_of_lt_of_le shorter within)]

/-- Behind a chunk that it takes a sink takes one less. -/
theorem Takes.accept {count : Nat} (takes : sink.Takes (count + 1)) (chunk : Text) :
    (sink.accept [chunk]).Takes count := by
  intro chunks shorter
  rw [accept_accept]
  exact takes _ (Nat.succ_lt_succ shorter)

theorem failsAfter_new (taken : Nat) (fault : Fault) :
    (new (.failing taken fault)).FailsAfter taken fault := by
  intro chunks
  rfl

/-- Every sink takes all writes or fails after some number of them. -/
theorem neverFails_or_failsAfter (sink : Sink) :
    sink.NeverFails ∨ ∃ taken fault, sink.FailsAfter taken fault := by
  rcases sink with ⟨behaviour, written, refused⟩
  cases behaviour with
  | accepting =>
      left
      intro chunks
      rfl
  | closed =>
      right
      refine ⟨0, .closed, ?_⟩
      intro chunks
      rfl
  | failing after fault =>
      right
      refine ⟨after - written.length, fault, ?_⟩
      intro chunks
      have room : (written ++ chunks).length < after ↔
          chunks.length < after - written.length := by
        rw [List.length_append]
        omega
      simp only [accept, fault?, room]

/-! ## Writing chunks -/

/-- Write chunks one after the other, up to the first that is refused. -/
def writeAll : List Text → Sink → Option Fault × Sink
  | [], sink => (none, sink)
  | chunk :: rest, sink =>
      match sink.write chunk with
      | (some fault, sink) => (some fault, sink)
      | (none, sink) => writeAll rest sink

theorem write_of_takes {count : Nat} (takes : sink.Takes (count + 1)) (chunk : Text) :
    sink.write chunk = (none, sink.accept [chunk]) := by
  have ready : sink.fault? = none := by
    have first := takes [] (Nat.succ_pos count)
    rwa [accept_nil] at first
  rw [write, ready]
  rfl

/-- Chunks that a sink takes are written, and writing goes on behind them. -/
theorem writeAll_append {first : List Text} (takes : sink.Takes first.length)
    (second : List Text) :
    sink.writeAll (first ++ second) = (sink.accept first).writeAll second := by
  induction first generalizing sink with
  | nil => rw [accept_nil, List.nil_append]
  | cons chunk rest ih =>
      rw [List.cons_append, writeAll, write_of_takes takes chunk]
      dsimp only
      rw [ih (takes.accept chunk), accept_accept, List.singleton_append]

theorem writeAll_of_takes {chunks : List Text} (takes : sink.Takes chunks.length) :
    sink.writeAll chunks = (none, sink.accept chunks) := by
  have whole := writeAll_append takes []
  rwa [List.append_nil] at whole

/-- Of more chunks than a sink takes the first ones are written, the next one is refused, and the
others are not written at all. -/
theorem FailsAfter.writeAll (fails : sink.FailsAfter taken fault) {chunks : List Text}
    (exceeds : taken < chunks.length) :
    sink.writeAll chunks =
      (some fault, (sink.accept (chunks.take taken)).refuse chunks[taken]) := by
  have length : (chunks.take taken).length = taken := by
    rw [List.length_take, Nat.min_eq_left (Nat.le_of_lt exceeds)]
  have full : (sink.accept (chunks.take taken)).fault? = some fault := by
    rw [fails, length, if_neg (Nat.lt_irrefl taken)]
  have split : chunks = chunks.take taken ++ chunks[taken] :: chunks.drop (taken + 1) := by
    rw [← List.drop_eq_getElem_cons exceeds, List.take_append_drop]
  calc sink.writeAll chunks
      = sink.writeAll (chunks.take taken ++ chunks[taken] :: chunks.drop (taken + 1)) := by
        rw [← split]
    _ = (sink.accept (chunks.take taken)).writeAll (chunks[taken] :: chunks.drop (taken + 1)) := by
        apply writeAll_append
        exact fails.takes (Nat.le_of_eq length)
    _ = (some fault, (sink.accept (chunks.take taken)).refuse chunks[taken]) := by
        rw [Sink.writeAll, write, full]
        rfl

end Sink

/-! ## Writing parts -/

namespace Part

variable {data : Value}

/-- The chunks of some parts: what they expand to where that is not empty, up to the first part
that fails. -/
def chunks (data : Value) : List Part → List Text
  | [] => []
  | part :: rest =>
      match part.expand data with
      | .error _ => []
      | .ok text => if text.isEmpty then chunks data rest else text :: chunks data rest

/-- If no part fails, the chunks are all expansions but the empty ones. -/
theorem chunks_of_mapM {parts : List Part} {outputs : List Text}
    (made : parts.mapM (Part.expand data) = .ok outputs) :
    chunks data parts = outputs.filter fun text => !text.isEmpty := by
  induction parts generalizing outputs with
  | nil =>
      cases made
      rfl
  | cons part rest ih =>
      rw [List.mapM_cons] at made
      obtain ⟨text, expands, made⟩ := exceptBind_ok.mp made
      obtain ⟨others, tail, made⟩ := exceptBind_ok.mp made
      cases made
      rw [chunks, expands, List.filter_cons]
      dsimp only
      rw [ih tail]
      cases text.isEmpty <;> rfl

/-- What comes of an expansion when its chunks were written: the fault of a refused chunk, or else
the expansion. -/
def outcome (expanded : Except ShapeError Text) :
    Option Sink.Fault × Sink → Except ExpansionError Text × Sink
  | (some fault, after) => (.error (.ofFault fault), after)
  | (none, after) => (expanded.mapError .shape, after)

theorem outcome_map (expanded : Except ShapeError Text) (text : Text)
    (written : Option Sink.Fault × Sink) :
    outcome (expanded.map (text ++ ·)) written =
      ((outcome expanded written).1.map (text ++ ·), (outcome expanded written).2) := by
  rcases written with ⟨answer, after⟩
  cases answer with
  | some fault => rfl
  | none => cases expanded <;> rfl

theorem expand_cons (part : Part) (rest : List Part) :
    Template.expand ⟨part :: rest⟩ data = (part.expand data).bind fun text =>
      (Template.expand ⟨rest⟩ data).map (text ++ ·) := by
  rw [Template.expand, Template.expand, List.mapM_cons]
  cases part.expand data with
  | error error => rfl
  | ok text => cases rest.mapM (Part.expand data) <;> rfl

/-- Parts that all expand to nothing have no chunks. -/
theorem chunks_eq_nil {parts : List Part}
    (empty : ∀ part ∈ parts, part.expand data = .ok []) :
    chunks data parts = [] ∧ Template.expand ⟨parts⟩ data = .ok [] := by
  induction parts with
  | nil => exact ⟨rfl, rfl⟩
  | cons part rest ih =>
      obtain ⟨noChunks, nothing⟩ := ih fun other member => empty other (by simp [member])
      rw [chunks, expand_cons, empty part (by simp), nothing]
      exact ⟨noChunks, rfl⟩

/-- Expanding parts and writing each as soon as it is expanded is expanding them all, and writing
all their chunks. -/
theorem expandAllTo_eq_outcome (data : Value) (parts : List Part) (sink : Sink) :
    expandAllTo data parts sink =
      outcome (Template.expand ⟨parts⟩ data) (sink.writeAll (chunks data parts)) := by
  induction parts generalizing sink with
  | nil => rfl
  | cons part rest ih =>
      rw [expandAllTo, chunks, expand_cons]
      cases part.expand data with
      | error error => rfl
      | ok text =>
          have tail : ∀ next : Sink,
              ((expandAllTo data rest next).1.map (text ++ ·), (expandAllTo data rest next).2) =
                outcome ((Template.expand ⟨rest⟩ data).map (text ++ ·))
                  (next.writeAll (chunks data rest)) := by
            intro next
            rw [outcome_map, ih next]
          cases empty : text.isEmpty with
          | true =>
              simp only [Sink.writeChunk, empty, if_true]
              exact tail sink
          | false =>
              simp only [Sink.writeChunk, empty, Bool.false_eq_true, if_false, Sink.writeAll]
              rcases sink.write text with ⟨answer, next⟩
              cases answer with
              | some fault => rfl
              | none => exact tail next

end Part

/-! ## Templates -/

namespace Template

/-- What it comes to when a template is expanded and written to a sink. The chunks are its
expansion, but for a part that fails. A sink that takes them all is written just these, and one that
does not take the next one is left with those before it. -/
structure Streamed (template : Template) (data : Value) (sink : Sink) (chunks : List Text) :
    Prop where
  outputs : ∀ outputs, template.parts.mapM (Part.expand data) = .ok outputs →
    (chunks = outputs.filter fun text => !text.isEmpty) ∧
      template.expand data = .ok chunks.flatten
  taken : (sink.NeverFails ∨
      ∃ taken fault, sink.FailsAfter taken fault ∧ chunks.length ≤ taken) →
    template.expandTo data sink =
      ((template.expand data).mapError .shape, sink.accept chunks)
  refused : ∀ taken fault, sink.FailsAfter taken fault → ∀ exceeds : taken < chunks.length,
    template.expandTo data sink =
      (.error (match fault.kind with
        | .io _ | .value _ => .refused fault
        | .key | .other _ => .passed fault),
      (sink.accept (chunks.take taken)).refuse chunks[taken])
  nothing : (∀ part ∈ template.parts, part.expand data = .ok []) →
    template.expandTo data sink = (.ok [], sink)

variable {template : Template} {data : Value}

theorem expandTo_eq_outcome (template : Template) (data : Value) (sink : Sink) :
    template.expandTo data sink =
      Part.outcome (template.expand data) (sink.writeAll (Part.chunks data template.parts)) :=
  Part.expandAllTo_eq_outcome data template.parts sink

theorem expandTo_of_takes {sink : Sink}
    (takes : sink.Takes (Part.chunks data template.parts).length) :
    template.expandTo data sink = ((template.expand data).mapError .shape,
      sink.accept (Part.chunks data template.parts)) := by
  rw [expandTo_eq_outcome, Sink.writeAll_of_takes takes]
  rfl

theorem expand_eq_flatten_chunks {outputs : List Text}
    (made : template.parts.mapM (Part.expand data) = .ok outputs) :
    template.expand data = .ok (Part.chunks data template.parts).flatten := by
  rw [expand, made, Part.chunks_of_mapM made, List.flatten_filter_not_isEmpty]
  rfl

theorem streamed (template : Template) (data : Value) (sink : Sink) :
    template.Streamed data sink (Part.chunks data template.parts) := by
  constructor
  · intro outputs made
    exact ⟨Part.chunks_of_mapM made, expand_eq_flatten_chunks made⟩
  · rintro (never | ⟨taken, fault, fails, within⟩)
    · exact expandTo_of_takes (never.takes _)
    · exact expandTo_of_takes (fails.takes within)
  · intro taken fault fails exceeds
    rw [expandTo_eq_outcome, fails.writeAll exceeds]
    rcases fault with ⟨kind, message⟩
    cases kind <;> rfl
  · intro empty
    obtain ⟨noChunks, nothing⟩ := Part.chunks_eq_nil empty
    have takes : sink.Takes (Part.chunks data template.parts).length := by
      rw [noChunks]
      intro chunks shorter
      exact absurd shorter (Nat.not_lt_zero _)
    rw [expandTo_of_takes takes, noChunks, Sink.accept_nil, nothing]
    rfl

/-- Whatever the context, the template and the sink, the chunks of the template are written to the
sink as they should be, and the only way not to have an expansion is that the template comes upon an
overlong range or a number with too many digits. Each sink takes all writes or fails after some
number of them. -/
theorem expandTo_streamed {context : Datum} (genuine : context.Genuine)
    (made : Value.of context = .ok data) (template : Template) (sink : Sink) :
    template.Streamed data sink (Part.chunks data template.parts) ∧
      (∀ error, template.expand data = .error error ↔ template.fault? context = some error) ∧
      (sink.NeverFails ∨ ∃ taken fault, sink.FailsAfter taken fault) :=
  ⟨streamed template data sink, template.failsWith_expand genuine made,
    sink.neverFails_or_failsAfter⟩

/-- A sink that fails behind its first write refuses the separator and is not written what follows
it. A part that expands to nothing is no write. -/
theorem expandTo_streamed_broken :
    (Datum.mapping []).Genuine ∧
      expandTo ⟨[.literal "a", .expression ⟨.query, [⟨["x"], none, by simp⟩], by simp⟩, .separator,
          .literal "b"]⟩ ⟨.mapping [], .undefined⟩
        (.new (.failing 1 ⟨.io (some "BrokenPipeError"), "closed"⟩)) =
      (.error (.refused ⟨.io (some "BrokenPipeError"), "closed"⟩),
        ⟨.failing 1 ⟨.io (some "BrokenPipeError"), "closed"⟩, ["a"], ["/"]⟩) := by
  have genuine : (Datum.mapping []).Genuine :=
    .mapping (fun _ member => by cases member) (fun _ member => by cases member)
  have made : Value.of (.mapping []) = .ok ⟨.mapping [], .undefined⟩ := rfl
  have fails := Sink.failsAfter_new 1 ⟨.io (some "BrokenPipeError"), "closed"⟩
  exact ⟨genuine, (expandTo_streamed genuine made _ _).1.refused 1 _ fails (by decide)⟩

end Template

end UriTemplate
