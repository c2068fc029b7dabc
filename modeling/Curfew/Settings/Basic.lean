import Curfew.Time.Duration

/-!
# Settings

**`Settings`** is what a configuration file can set; `Limits` is what a supervisor makes of it.
-/

namespace Curfew

/-- The settings of a supervisor as a configuration file gives them. -/
structure Settings where
  /-- Budget in seconds; zero and less stand for the default budget. -/
  timeoutSecs : Int64
  /-- How long the group may take to exit, and the pipes to close, after the first signal. -/
  killGraceMillis : UInt64
  /-- Whether a group that outlives the grace period is killed outright. -/
  escalate : Bool
deriving DecidableEq, Repr

namespace Settings

/-- The settings where a file says nothing. -/
def default : Settings := ⟨3, 200, true⟩

/-- The budget that stands in for one that is not positive. -/
def defaultTimeout : Duration := .ofSeconds 3

/-- The budget of a number of seconds. -/
def effectiveTimeout (seconds : Int64) : Duration :=
  if seconds ≤ 0 then defaultTimeout else .ofSeconds seconds.toNatClampNeg

end Settings

/-- The time limits that a supervisor enforces. -/
structure Limits where
  timeout : Duration
  killGrace : Duration
  escalate : Bool
deriving DecidableEq, Repr

namespace Limits

def ofSettings (s : Settings) : Limits :=
  ⟨Settings.effectiveTimeout s.timeoutSecs, .ofMillis s.killGraceMillis.toNat, s.escalate⟩

/-- The limits of a budget in seconds, all else as by default. -/
def ofSeconds (seconds : Int64) : Limits :=
  ofSettings ⟨seconds, Settings.default.killGraceMillis, Settings.default.escalate⟩

end Limits

end Curfew
