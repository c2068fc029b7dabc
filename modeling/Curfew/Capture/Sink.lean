import Curfew.Capture.Destination

/-!
# Capturing sinks

A **`Sink`** forwards every write to its destination and keeps a copy of everything that was
written. The copy is made first, so that it holds the bytes of a write whatever becomes of the
forward.

* **`write`** and **`flush`** are what a sink does; **`call`** is either, with what it returns.
-/

namespace Curfew.Capture

/-- A copy of everything written so far, newest first, and the destination behind it. -/
structure Sink where
  kept : List Bytes
  destination : Destination

/-- Something that a sink is asked to do. -/
inductive Call
  | write (bytes : Bytes)
  | flush
deriving DecidableEq, Repr

/-- What a call returns, if it does. -/
inductive Returned
  /-- All the bytes were forwarded, and this is how many. -/
  | written (count : Nat)
  | flushed
  | failed (cause : IoError)
  /-- Given up while the destination was not ready. -/
  | abandoned
  | crashed
deriving DecidableEq, Repr

/-- What a call returns that ends like this; `done` if it ends well. -/
def Returned.ofEnding (done : Returned) : Ending → Returned
  | .done => done
  | .failed cause => .failed cause
  | .abandoned => .abandoned
  | .crashed => .crashed

namespace Sink

/-- A sink that nothing was written to yet. -/
def ofDestination (d : Destination) : Sink := ⟨[], d⟩

/-- Everything written so far, in order. -/
def snapshot (s : Sink) : Bytes := Bytes.joined s.kept

/-- The number of bytes written so far. -/
def size (s : Sink) : Nat := s.snapshot.length

/-- Whether no byte was written so far. -/
def isEmpty (s : Sink) : Bool := s.snapshot.isEmpty

/-- Adds `bytes` to the copy. -/
def keep (s : Sink) (bytes : Bytes) : Sink := { s with kept := bytes :: s.kept }

/-- Keeps `bytes`, then forwards them in at most `patience` attempts. -/
def write (patience : Nat) (bytes : Bytes) (s : Sink) : Ending × Sink :=
  let s := s.keep bytes
  let (ending, d) := s.destination.forward patience bytes
  (ending, { s with destination := d })

/-- Flushes the destination in at most `patience` attempts. -/
def flush (patience : Nat) (s : Sink) : Ending × Sink :=
  let (ending, d) := s.destination.flush patience
  (ending, { s with destination := d })

/-- Does what it is asked to do, in at most `patience` attempts. -/
def call (patience : Nat) (c : Call) (s : Sink) : Returned × Sink :=
  match c with
  | .write bytes =>
    let (ending, s) := s.write patience bytes
    (.ofEnding (.written bytes.length) ending, s)
  | .flush =>
    let (ending, s) := s.flush patience
    (.ofEnding .flushed ending, s)

def intoParts (s : Sink) : Bytes × Destination := (s.snapshot, s.destination)

end Sink

end Curfew.Capture
