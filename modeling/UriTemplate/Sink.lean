import UriTemplate.Expansion

/-!
# Writing an expansion to a sink

An expansion can be written to a sink while it is made, part by part. A sink keeps what was
written to it and may refuse a write with a fault; what it refused it keeps apart. Faults of
input and output and faults of value mean that the sink does not take the expansion, which is
an error of the expansion; any other fault is passed on as it is.
-/

set_option autoImplicit false

namespace UriTemplate

namespace Sink

/-- The kinds of faults. A fault of input and output or of value may have a narrower name. -/
inductive FaultKind where
  | io (narrower : Option Text)
  | value (narrower : Option Text)
  | key
  | other (name : Text)
  deriving DecidableEq, Repr

/-- Why a sink refuses a write. -/
structure Fault where
  kind : FaultKind
  message : Text
  deriving DecidableEq, Repr

namespace Fault

/-- The fault of a sink that was closed. -/
def closed : Fault := ⟨.value none, "I/O operation on closed file"⟩

/-- The text of a fault. A missing key is shown quoted. -/
def text (fault : Fault) : Text :=
  match fault.kind with
  | .key => Quoted.ofText fault.message
  | _ => fault.message

/-- Whether a fault means that the sink does not take the expansion. -/
def isRefusal (fault : Fault) : Bool :=
  match fault.kind with
  | .io _ | .value _ => true
  | _ => false

end Fault

/-- How a sink answers writes: it takes all of them, it is closed, or it takes a number of
them and answers the others with a fault. -/
inductive Behaviour where
  | accepting
  | closed
  | failing (after : Nat) (fault : Fault)
  deriving DecidableEq, Repr

end Sink

/-- A sink, with what was written to it and what it refused. -/
structure Sink where
  behaviour : Sink.Behaviour
  written : List Text
  refused : List Text
  deriving DecidableEq, Repr

namespace Sink

/-- A sink that nothing was written to. -/
def new (behaviour : Behaviour) : Sink := ⟨behaviour, [], []⟩

/-- What was written to a sink, which can be asked for unless it is closed. -/
def contents? (sink : Sink) : Option (List Text) :=
  match sink.behaviour with
  | .closed => none
  | _ => some sink.written

/-- The fault with which a sink answers the next write, if it does not take it. -/
def fault? (sink : Sink) : Option Fault :=
  match sink.behaviour with
  | .accepting => none
  | .closed => some .closed
  | .failing after fault => if sink.written.length < after then none else some fault

/-- Write to a sink. It answers with a fault, or takes what is written. -/
def write (sink : Sink) (chunk : Text) : Option Fault × Sink :=
  match sink.fault? with
  | some fault => (some fault, { sink with refused := sink.refused ++ [chunk] })
  | none => (none, { sink with written := sink.written ++ [chunk] })

end Sink

/-- Why an expansion is not completed. -/
inductive ExpansionError where
  | shape (error : ShapeError)
  | refused (fault : Sink.Fault)
  | passed (fault : Sink.Fault)
  deriving Repr

namespace ExpansionError

/-- The error that a fault of the sink leads to. -/
def ofFault (fault : Sink.Fault) : ExpansionError :=
  if fault.isRefusal then .refused fault else .passed fault

/-- The wording of an error. -/
def message : ExpansionError → Text
  | .shape error => error.message
  | .refused fault => ("failed to write expansion output: " : Text) ++ fault.text
  | .passed fault => fault.text

end ExpansionError

/-- Write a chunk unless it is empty. -/
def Sink.writeChunk (sink : Sink) (chunk : Text) : Option Sink.Fault × Sink :=
  if chunk.isEmpty then (none, sink) else sink.write chunk

/-- Expand parts and write each to the sink as soon as it is expanded. -/
def Part.expandAllTo (data : Value) : List Part → Sink → Except ExpansionError Text × Sink
  | [], sink => (.ok [], sink)
  | part :: rest, sink =>
      match part.expand data with
      | .error error => (.error (.shape error), sink)
      | .ok chunk =>
          match sink.writeChunk chunk with
          | (some fault, sink) => (.error (.ofFault fault), sink)
          | (none, sink) =>
              let (result, sink) := expandAllTo data rest sink
              (result.map (chunk ++ ·), sink)

/-- Expand a template and write it to a sink, part by part. -/
def Template.expandTo (template : Template) (data : Value) (sink : Sink) :
    Except ExpansionError Text × Sink :=
  Part.expandAllTo data template.parts sink

end UriTemplate
