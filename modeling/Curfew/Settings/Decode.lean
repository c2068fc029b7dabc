import Curfew.Settings.Basic
import Curfew.Text.Quoted
import Curfew.Toml.Value
import Curfew.Decimal.Shortest

/-!
# Settings in a document

The key `supervisor` of a document holds the settings: a table with a key for each of them, or an
array of them in order. What is missing takes its default, and what is unknown is passed over.

* **`Settings.ofTable`** reads the settings of a document's root table. The first value that does
  not fit is reported as a **`Mismatch`**.
-/

namespace Curfew.Settings

open Toml

/-- What a value is, as complaints name it. -/
inductive Shape
  | integer (n : Int)
  | float (x : Binary64)
  | boolean (b : Bool)
  | text (s : String)
  | sequence
  | map
deriving DecidableEq, Repr

def Shape.of : Value → Shape
  | .integer n => .integer n
  | .float x => .float x
  | .boolean b => .boolean b
  | .text s => .text s
  | .array _ => .sequence
  | .tables _ => .sequence
  | .dateTime => .map
  | .table _ => .map

def Shape.name : Shape → String
  | .integer n => "integer `" ++ toString n ++ "`"
  | .float x => "floating point `" ++ x.render ++ "`"
  | .boolean b => "boolean `" ++ toString b ++ "`"
  | .text s => "string " ++ Text.Quoted.quote s
  | .sequence => "sequence"
  | .map => "map"

/-- What a place in a document calls for. -/
inductive Wanted
  | signed
  | unsigned
  | boolean
  | settings
deriving DecidableEq, Repr

/-- How complaints name what is called for. -/
def Wanted.name : Wanted → String
  | .signed => "i64"
  | .unsigned => "u64"
  | .boolean => "a boolean"
  | .settings => "struct SupervisorConfig"

/-- Why a value does not fit. -/
inductive Fault
  | shape (found : Shape) (wanted : Wanted)
  /-- It is a number that the setting cannot hold. -/
  | range (found : Int) (wanted : Wanted)
deriving DecidableEq, Repr

def Fault.message : Fault → String
  | .shape found wanted => "invalid type: " ++ found.name ++ ", expected " ++ wanted.name
  | .range found wanted =>
    "invalid value: " ++ (Shape.integer found).name ++ ", expected " ++ wanted.name

/-- A value that does not fit, and where it stands. -/
structure Mismatch where
  fault : Fault
  span : Span
deriving DecidableEq, Repr

/-- Complains about a value at `span`. -/
def mismatch {α : Type} (v : Value) (wanted : Wanted) (span : Span) : Except Mismatch α :=
  .error ⟨.shape (.of v) wanted, span⟩

def readTimeout (v : Value) (span : Span) : Except Mismatch Int64 :=
  match v with
  | .integer n => .ok (Int64.ofInt n)
  | v => mismatch v .signed span

/-- A grace period in milliseconds, which is not negative. -/
def readGrace (v : Value) (span : Span) : Except Mismatch UInt64 :=
  match v with
  | .integer n => if n < 0 then .error ⟨.range n .unsigned, span⟩ else .ok (UInt64.ofNat n.toNat)
  | v => mismatch v .unsigned span

def readSwitch (v : Value) (span : Span) : Except Mismatch Bool :=
  match v with
  | .boolean b => .ok b
  | v => mismatch v .boolean span

/-- Where the value of an entry stands; a table without text of its own stands at its key. -/
def spanOf (e : Entry Value) : Span := e.span.getD e.key.span

/-- The settings with one entry taken in. -/
def readEntry (s : Settings) (e : Entry Value) : Except Mismatch Settings :=
  match e.key.name with
  | "timeout_secs" => (readTimeout e.value (spanOf e)).map fun v => { s with timeoutSecs := v }
  | "kill_grace_ms" => (readGrace e.value (spanOf e)).map fun v => { s with killGraceMillis := v }
  | "escalate" => (readSwitch e.value (spanOf e)).map fun v => { s with escalate := v }
  | _ => .ok s

/-- Settings in order, as many as there are; `outer` stands in for an item without a span. -/
def readItems (items : List (Item Value)) (outer : Span) : Except Mismatch Settings := do
  let at_ (n : Nat) : Option (Value × Span) :=
    (items[n]?).map fun item => (item.value, item.span.getD outer)
  let timeout ← match at_ 0 with
    | some (v, span) => readTimeout v span
    | none => .ok Settings.default.timeoutSecs
  let grace ← match at_ 1 with
    | some (v, span) => readGrace v span
    | none => .ok Settings.default.killGraceMillis
  let escalate ← match at_ 2 with
    | some (v, span) => readSwitch v span
    | none => .ok Settings.default.escalate
  .ok ⟨timeout, grace, escalate⟩

/-- The settings that a value stands for. A date stands for a table without known keys. -/
def readValue (v : Value) (span : Span) : Except Mismatch Settings :=
  match v with
  | .table t => t.entries.foldlM readEntry Settings.default
  | .array items => readItems items span
  | .tables elements =>
    readItems (elements.map fun item => ⟨item.span, .table item.value⟩) span
  | .dateTime => .ok Settings.default
  | v => mismatch v .settings span

def ofTable (root : Table) : Except Mismatch Settings :=
  match root.find? "supervisor" with
  | none => .ok Settings.default
  | some e => readValue e.value (spanOf e)

end Curfew.Settings
