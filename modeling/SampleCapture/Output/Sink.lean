import SampleCapture.Output.Writer

/-!
# Sinks

A sink hands bytes on to a writer, either directly or through a buffer. A buffer keeps
small pieces back until they no longer fit; a piece as large as the whole buffer
passes it by once the buffer is empty. What a buffer still holds when it is released
is written out once more, unless the writer has crashed.
-/

namespace SampleCapture

structure Buffer where
  capacity : Nat
  pending : Array UInt8 := #[]
deriving Repr, Inhabited

/-- A writer, its file, and the buffer in front of it. -/
structure Sink where
  writer : Writer
  file : OutputFile := {}
  buffer : Option Buffer := none
  /-- The writer has crashed. -/
  crashed : Bool := false

namespace Sink

def stuckWrite : String := "failed to write whole buffer"

def stuckBuffer : String := "failed to write the buffered data"

def pass (sink : Sink) (bytes : List UInt8) : OutputResult × Sink :=
  let pumped := sink.writer.pump stuckWrite sink.file bytes
  (pumped.result, { sink with file := pumped.file, crashed := pumped.result = .crashed })

/-- Writes out the buffer; what the writer did not accept stays in it. -/
def emptyBuffer (sink : Sink) (buffer : Buffer) : OutputResult × Sink :=
  let pumped := sink.writer.pump stuckBuffer sink.file buffer.pending.toList
  (pumped.result,
    { sink with
      file := pumped.file
      buffer := some { buffer with pending := pumped.rest.toArray }
      crashed := pumped.result = .crashed })

def keep (sink : Sink) (bytes : List UInt8) : Sink :=
  { sink with
    buffer := sink.buffer.map fun buffer => { buffer with pending := buffer.pending ++ bytes } }

/-- Passes a piece by the buffer if it is as large as the buffer, else keeps it back. -/
def passOrKeep (sink : Sink) (capacity : Nat) (bytes : List UInt8) : OutputResult × Sink :=
  if capacity ≤ bytes.length then sink.pass bytes else (.done, sink.keep bytes)

def writeAll (sink : Sink) (bytes : List UInt8) : OutputResult × Sink :=
  match sink.buffer with
  | none => sink.pass bytes
  | some buffer =>
      if buffer.pending.size + bytes.length ≤ buffer.capacity then
        sink.passOrKeep buffer.capacity bytes
      else
        match sink.emptyBuffer buffer with
        | (.done, emptied) => emptied.passOrKeep buffer.capacity bytes
        | failure => failure

def flushWriter (sink : Sink) : OutputResult × Sink :=
  (sink.writer.flushed,
    { sink with file := { sink.file with flushes := sink.file.flushes + 1 } })

def flush (sink : Sink) : OutputResult × Sink :=
  match sink.buffer with
  | none => sink.flushWriter
  | some buffer =>
      match sink.emptyBuffer buffer with
      | (.done, emptied) => emptied.flushWriter
      | failure => failure

/-- Lets go of the sink: a buffer is written out once more, whatever comes of it, unless
the writer has crashed. -/
def release (sink : Sink) : Sink :=
  match sink.buffer with
  | none => sink
  | some buffer => if sink.crashed then sink else (sink.emptyBuffer buffer).2

end Sink

end SampleCapture
