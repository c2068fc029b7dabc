import Curfew.Bytes
import Curfew.IoError.Basic

/-!
# Destinations

Where captured output is forwarded to: a terminal, a file, a pipe. A destination may take part of
what it is offered, refuse it, not be ready yet, or never become ready.

* **`Behaviour`** is how a destination answers, attempt by attempt; **`Destination`** adds what it
  holds and which attempts it has seen.
* **`offer`** and **`flushOnce`** are single attempts.
* **`push`** is one attempt at forwarding bytes to the last one, and **`forward`** repeats it.
-/

namespace Curfew.Capture

/-- How a destination answers one attempt. To an attempt to flush any acceptance means success. -/
inductive Reply
  /-- Takes what it is offered, up to the limit. -/
  | accept (limit : Option Nat)
  | fail (cause : IoError)
  /-- Not now; the next attempt gets the next answer. -/
  | notReady
  /-- Never again: every later attempt of this sort finds the same answer. -/
  | stall
  /-- Whoever makes the attempt crashes. -/
  | crash

/-- The answers to the attempts to write and to the attempts to flush, counted from 0. -/
structure Behaviour where
  write : Nat → Reply
  flush : Nat → Reply
  /-- What the runtime says of a task that crashes in an attempt. -/
  report : String

namespace Behaviour

/-- The given answers one after the other, and `rest` from then on. -/
def sequence (answers : List Reply) (rest : Reply) : Nat → Reply :=
  fun n => (answers[n]?).getD rest

def obliging : Behaviour := ⟨fun _ => .accept none, fun _ => .accept none, ""⟩

end Behaviour

inductive Attempt
  | write (offered accepted : Nat)
  | writeFailed (offered : Nat)
  | flush
  | flushFailed
deriving DecidableEq, Repr

structure Destination where
  behaviour : Behaviour
  /-- The answers to writes that are used up. -/
  writes : Nat
  /-- The answers to flushes that are used up. -/
  flushes : Nat
  /-- What was taken, newest first. -/
  taken : List Bytes
  /-- The finished attempts, newest first. -/
  attempts : List Attempt

/-- What came of one attempt to write. -/
inductive Offered
  | took (n : Nat)
  | failed (cause : IoError)
  | notReady
  | stalled
  | crashed
deriving DecidableEq, Repr

/-- What came of one attempt to flush. -/
inductive Flushed
  | done
  | failed (cause : IoError)
  | notReady
  | stalled
  | crashed
deriving DecidableEq, Repr

/-- Where a forward stands after one attempt. -/
inductive Forward
  | done
  | failed (cause : IoError)
  /-- `rest` is still to be taken and is offered at once. -/
  | again (rest : Bytes)
  /-- `rest` is still to be taken, once the destination is ready. -/
  | notReady (rest : Bytes)
  | stalled (rest : Bytes)
  | crashed
deriving DecidableEq, Repr

/-- How a call ends that forwards or flushes. -/
inductive Ending
  | done
  | failed (cause : IoError)
  /-- Given up while the destination was not ready. -/
  | abandoned
  | crashed
deriving DecidableEq, Repr

namespace Destination

/-- A destination that nothing was offered to yet. -/
def ofBehaviour (b : Behaviour) : Destination := ⟨b, 0, 0, [], []⟩

def contents (d : Destination) : Bytes := Bytes.joined d.taken

/-- The finished attempts in order. -/
def log (d : Destination) : List Attempt := d.attempts.reverse

/-- How many of `offered` bytes go through under a limit. -/
def share (limit : Option Nat) (offered : Nat) : Nat :=
  match limit with
  | none => offered
  | some most => min most offered

def offer (d : Destination) (bytes : Bytes) : Offered × Destination :=
  match d.behaviour.write d.writes with
  | .accept limit =>
    let n := share limit bytes.length
    (.took n,
      { d with
        writes := d.writes + 1
        taken := bytes.take n :: d.taken
        attempts := .write bytes.length n :: d.attempts })
  | .fail cause =>
    (.failed cause,
      { d with writes := d.writes + 1, attempts := .writeFailed bytes.length :: d.attempts })
  | .notReady => (.notReady, { d with writes := d.writes + 1 })
  | .stall => (.stalled, d)
  | .crash => (.crashed, { d with writes := d.writes + 1 })

def flushOnce (d : Destination) : Flushed × Destination :=
  match d.behaviour.flush d.flushes with
  | .accept _ => (.done, { d with flushes := d.flushes + 1, attempts := .flush :: d.attempts })
  | .fail cause =>
    (.failed cause, { d with flushes := d.flushes + 1, attempts := .flushFailed :: d.attempts })
  | .notReady => (.notReady, { d with flushes := d.flushes + 1 })
  | .stall => (.stalled, d)
  | .crash => (.crashed, { d with flushes := d.flushes + 1 })

/-- One attempt at forwarding `rest`. Nothing left needs no attempt; a destination that takes
nothing has failed; an interrupted attempt is made again, and any other failure is final.

These are the rules of the runtime for writing a buffer to its end. They are assumed here, that of
the interrupted attempt among them; a flush is the destination's own, and not repeated. -/
def push (d : Destination) (rest : Bytes) : Forward × Destination :=
  if rest.isEmpty then (.done, d)
  else
    match d.offer rest with
    | (.took 0, d) => (.failed (.plain .writeZero), d)
    | (.took (n + 1), d) =>
      let left := rest.drop (n + 1)
      (if left.isEmpty then .done else .again left, d)
    | (.failed cause, d) =>
      (if cause.kind = .interrupted then .again rest else .failed cause, d)
    | (.notReady, d) => (.notReady rest, d)
    | (.stalled, d) => (.stalled rest, d)
    | (.crashed, d) => (.crashed, d)

/-- Forwards `rest` in at most `patience` attempts. -/
def forward : Nat → Bytes → Destination → Ending × Destination
  | 0, rest, d => (if rest.isEmpty then .done else .abandoned, d)
  | patience + 1, rest, d =>
    match d.push rest with
    | (.done, d) => (.done, d)
    | (.failed cause, d) => (.failed cause, d)
    | (.again rest, d) => forward patience rest d
    | (.notReady rest, d) => forward patience rest d
    | (.stalled _, d) => (.abandoned, d)
    | (.crashed, d) => (.crashed, d)

/-- Flushes in at most `patience` attempts. -/
def flush : Nat → Destination → Ending × Destination
  | 0, d => (.abandoned, d)
  | patience + 1, d =>
    match d.flushOnce with
    | (.done, d) => (.done, d)
    | (.failed cause, d) => (.failed cause, d)
    | (.notReady, d) => flush patience d
    | (.stalled, d) => (.abandoned, d)
    | (.crashed, d) => (.crashed, d)

end Destination

end Curfew.Capture
