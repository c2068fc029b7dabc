import Curfew.Capture.Sink
import Curfew.Capture.Pipe

/-!
# Draining a pipe into a sink

A **`Drain`** copies a pipe into a sink until the pipe ends, or until it is told to stop. A forward
that fails is remembered, and reading goes on, so that the writer at the other end never meets a
full pipe.

* **`Phase`** says where a drain stands. A request to stop is looked at only in the phases in which
  the drain waits for something (`heed`).
* **`receive`** takes in what a read yields; **`advance`** makes one attempt of any other kind.
* **`step`** does whichever is due, and **`settle`** repeats it until the drain can do no more.
-/

namespace Curfew.Capture

/-- Where a drain stands. -/
inductive Phase
  /-- Waits for the pipe. -/
  | reading
  /-- Has read `chunk`, which the sink has not seen yet. -/
  | holding (chunk : Bytes)
  /-- The sink has the chunk; `rest` of it waits for the destination. -/
  | waiting (rest : Bytes)
  /-- The sink has the chunk; `rest` of it is offered at once. -/
  | pushing (rest : Bytes)
  /-- The pipe has ended; the flush waits for the destination. -/
  | flushing
  /-- Ran to its end. -/
  | finished
  /-- Was stopped before the pipe ended. -/
  | cutOff
  | crashed
deriving DecidableEq, Repr

structure Drain where
  phase : Phase
  sink : Sink
  /-- The first failure met. -/
  failure : Option IoError

inductive Pace
  | moved
  /-- Nothing yet; the next step may differ. -/
  | notReady
  /-- Nothing, until something else happens. -/
  | stuck
  | ended
deriving DecidableEq, Repr

/-- What a drain leaves behind. -/
inductive DrainResult
  | drained (captured : Bytes) (failure : Option IoError)
  | crashed (report : String)
deriving DecidableEq, Repr

namespace Drain

def start (d : Destination) : Drain := ⟨.reading, .ofDestination d, none⟩

/-- A drain of a pipe that was never captured has failed from the start. -/
def missing (d : Destination) : Drain :=
  ⟨.finished, .ofDestination d, some (.custom .other "child pipe was not captured")⟩

/-- Remembers a failure, unless there was one before. -/
def record (d : Drain) (cause : IoError) : Drain :=
  { d with failure := some (d.failure.getD cause) }

def receive (d : Drain) (reply : ReadReply) : Pace × Drain :=
  match reply with
  | .data chunk => (.moved, { d with phase := if chunk.isEmpty then .flushing else .holding chunk })
  | .closed => (.moved, { d with phase := .flushing })
  | .failed cause => (.moved, { d.record cause with phase := .flushing })
  | .notReady => (.notReady, d)
  | .stalled => (.stuck, d)

/-- One attempt at forwarding `rest`. -/
def push (d : Drain) (rest : Bytes) : Pace × Drain :=
  let (progress, destination) := d.sink.destination.push rest
  let d := { d with sink := { d.sink with destination := destination } }
  match progress with
  | .done => (.moved, { d with phase := .reading })
  | .failed cause => (.moved, { d.record cause with phase := .reading })
  | .again rest => (.moved, { d with phase := .pushing rest })
  | .notReady rest => (.notReady, { d with phase := .waiting rest })
  | .stalled rest => (.stuck, { d with phase := .waiting rest })
  | .crashed => (.ended, { d with phase := .crashed })

def flush (d : Drain) : Pace × Drain :=
  let (result, destination) := d.sink.destination.flushOnce
  let d := { d with sink := { d.sink with destination := destination } }
  match result with
  | .done => (.ended, { d with phase := .finished })
  | .failed cause => (.ended, { d.record cause with phase := .finished })
  | .notReady => (.notReady, d)
  | .stalled => (.stuck, d)
  | .crashed => (.ended, { d with phase := .crashed })

/-- One attempt at what is due after a read. A chunk goes to the sink when its forward begins. -/
def advance (d : Drain) : Pace × Drain :=
  match d.phase with
  | .reading => (.stuck, d)
  | .holding chunk => { d with sink := d.sink.keep chunk }.push chunk
  | .waiting rest => d.push rest
  | .pushing rest => d.push rest
  | .flushing => d.flush
  | .finished => (.ended, d)
  | .cutOff => (.ended, d)
  | .crashed => (.ended, d)

/-- Whether a request to stop is looked at in a phase. -/
def Phase.heeds : Phase → Bool
  | .reading | .holding _ | .waiting _ | .flushing => true
  | .pushing _ | .finished | .cutOff | .crashed => false

/-- Obeys a request to stop. A stop during the flush ends a drain that has read its pipe. -/
def heed (d : Drain) : Drain :=
  match d.phase with
  | .reading => { d with phase := .cutOff }
  | .holding _ => { d with phase := .cutOff }
  | .waiting _ => { d with phase := .cutOff }
  | .flushing => { d with phase := .finished }
  | .pushing _ => d
  | .finished => d
  | .cutOff => d
  | .crashed => d

/-- What the drain leaves behind, once it has ended. -/
def result? (d : Drain) : Option DrainResult :=
  match d.phase with
  | .finished => some (.drained d.sink.snapshot d.failure)
  | .cutOff => some (.drained d.sink.snapshot d.failure)
  | .crashed => some (.crashed d.sink.destination.behaviour.report)
  | _ => none

/-- Does what is due; a read takes its reply from the source `s`. -/
def step {σ : Type} (read : σ → ReadReply × σ) (d : Drain) (s : σ) : Pace × Drain × σ :=
  match d.phase with
  | .reading =>
    let (reply, s) := read s
    let (pace, d) := d.receive reply
    (pace, d, s)
  | _ =>
    let (pace, d) := d.advance
    (pace, d, s)

/-- Steps until the drain can do no more by itself, at most `fuel` times. With `stop` it obeys as
soon as it has to wait. -/
def settle {σ : Type} (read : σ → ReadReply × σ) (stop : Bool) : Nat → Drain → σ → Drain × σ
  | 0, d, s => (d, s)
  | fuel + 1, d, s =>
    match d.step read s with
    | (.moved, d, s) => settle read stop fuel d s
    | (.notReady, d, s) => if stop then (d.heed, s) else settle read stop fuel d s
    | (.stuck, d, s) => (if stop then d.heed else d, s)
    | (.ended, d, s) => (d, s)

/-- A number of steps that no finite exchange comes near. -/
def ample : Nat := 100000000

end Drain

end Curfew.Capture
