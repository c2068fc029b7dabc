/-!
# Spans of time and instants

Spans and instants of the monotonic clock count whole nanoseconds. Spans have no upper bound here.
An instant does: it holds at most `Instant.limit` whole seconds, so that adding a span can fail
(**`Instant.add?`**).
-/

namespace Curfew

/-- The number of nanoseconds in a second. -/
def nanosPerSecond : Nat := 1000000000

/-- The number of nanoseconds in a millisecond. -/
def nanosPerMilli : Nat := 1000000

structure Duration where
  nanos : Nat
deriving DecidableEq, Repr

namespace Duration

def ofSeconds (n : Nat) : Duration := ⟨n * nanosPerSecond⟩

def ofMillis (n : Nat) : Duration := ⟨n * nanosPerMilli⟩

def seconds (d : Duration) : Nat := d.nanos / nanosPerSecond

/-- The nanoseconds past the last whole second. -/
def subsecond (d : Duration) : Nat := d.nanos % nanosPerSecond

def millis (d : Duration) : Nat := d.nanos / nanosPerMilli

def min (a b : Duration) : Duration := ⟨Nat.min a.nanos b.nanos⟩

end Duration

/-- A reading of the monotonic clock, in nanoseconds. -/
structure Instant where
  nanos : Nat
deriving DecidableEq, Repr

namespace Instant

/-- Instants lie before this number of seconds. -/
def limit : Nat := 9223372036854775808

/-- The instant `d` after `t`, if it can be represented. -/
def add? (t : Instant) (d : Duration) : Option Instant :=
  let sum := t.nanos + d.nanos
  if sum < limit * nanosPerSecond then some ⟨sum⟩ else none

/-- The span from `earlier` to `later`; nothing where `later` is not later. -/
def since (later earlier : Instant) : Duration := ⟨later.nanos - earlier.nanos⟩

/-- Whether `deadline` has come at `now`. -/
def reached (now deadline : Instant) : Bool := deadline.nanos ≤ now.nanos

end Instant

end Curfew
