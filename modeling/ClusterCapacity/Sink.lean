import ClusterCapacity.IoError

/-!
# Sinks for bytes

A write to a sink takes some of the bytes that it is offered, or fails.  A text is delivered by
offering what is left of it until nothing is left, and flushing the sink then.
-/

namespace ClusterCapacity

/-- A place that bytes are written to.  A write that is interrupted before it took anything is
repeated below the sink, so it is no failure of a write here. -/
structure Sink (m : Type → Type) where
  /-- Offers bytes; the answer is how many of them were taken. -/
  write : List UInt8 → ExceptT IoError m Nat
  flush : ExceptT IoError m Unit

namespace Sink

variable {m : Type → Type} [Monad m]

/-- Offers the bytes until all of them are taken; a write that takes none fails. -/
def writeAll (sink : Sink m) : List UInt8 → ExceptT IoError m Unit
  | [] => pure ()
  | byte :: rest => do
    let count ← sink.write (byte :: rest)
    if count = 0 then throw .nothingWritten
    else writeAll sink (rest.drop (count - 1))
termination_by bytes => bytes.length
decreasing_by
  simp only [List.length_drop, List.length_cons]
  omega

/-- Writes a whole text in UTF-8 and flushes the sink. -/
def deliver (sink : Sink m) (text : String) : ExceptT IoError m Unit := do
  sink.writeAll text.toUTF8.toList
  sink.flush

end Sink

/-! ### Sinks in memory -/

/-- What has reached a sink in memory. -/
structure Buffer where
  contents : List UInt8 := []
  /-- The writes so far, also those that failed. -/
  writes : Nat := 0
deriving DecidableEq, Repr, Inhabited

/-- How a sink in memory behaves. -/
structure Buffer.Behaviour where
  /-- How many of the offered bytes a write takes. -/
  accept : Buffer → List UInt8 → Except IoError Nat
  flush : Except IoError Unit := .ok ()

namespace Buffer

/-- One write: the bytes that the behaviour accepts are appended. -/
def write (behaviour : Behaviour) (offered : List UInt8) (buffer : Buffer) :
    Except IoError Nat × Buffer :=
  match behaviour.accept buffer offered with
  | .ok count =>
    (.ok (min count offered.length), ⟨buffer.contents ++ offered.take count, buffer.writes + 1⟩)
  | .error error => (.error error, { buffer with writes := buffer.writes + 1 })

/-- A sink with room for `room` bytes in all, or for any number; a write takes what fits and fails
when nothing does. -/
def bounded (room : Option Nat) (flushFails : Bool) : Behaviour where
  accept buffer offered :=
    match room with
    | none => .ok offered.length
    | some room =>
      if room ≤ buffer.contents.length then .error (.other "sink is full")
      else .ok (min offered.length (room - buffer.contents.length))
  flush := if flushFails then .error (.other "flush failed") else .ok ()

/-- A sink that takes everything. -/
def unbounded : Behaviour := bounded none false

end Buffer

end ClusterCapacity
