import Curfew.Decimal.Binary64

/-!
# TOML values

* **`Span`**: the bytes of the document that a value was read from.
* **`Table`**: entries in the order in which they were defined. Its **`TableKind`** says how it came
  about, which decides what may still be added to it.
* **`Value`**: scalars, arrays, tables and arrays of tables.
-/

namespace Curfew.Toml

/-- The bytes from `start` up to, not including, `stop`. -/
structure Span where
  start : Nat
  stop : Nat
deriving DecidableEq, Repr

structure Key where
  name : String
  span : Span
deriving DecidableEq, Repr

inductive TableKind
  /-- By a header of its own. -/
  | header
  /-- By being on the way to a table with a header. -/
  | implicit
  /-- By being on the way to a dotted key. -/
  | dotted
  | inline
deriving DecidableEq, Repr

/-- A key, a value, and where the value stands. A table without text of its own has no span. -/
structure Entry (α : Type) where
  key : Key
  span : Option Span
  value : α
deriving Repr

structure Item (α : Type) where
  span : Option Span
  value : α
deriving Repr

/-- Entries in order of definition, under distinct names. -/
structure TableOf (α : Type) where
  kind : TableKind
  entries : List (Entry α)
deriving Repr

inductive Value
  | text (s : String)
  | integer (n : Int)
  | float (x : Binary64)
  | boolean (b : Bool)
  /-- A date, a time, or both; no setting needs more of it. -/
  | dateTime
  | array (items : List (Item Value))
  | table (t : TableOf Value)
  /-- Tables defined one by one under headers in double brackets. -/
  | tables (elements : List (Item (TableOf Value)))
deriving Repr

abbrev Table := TableOf Value

namespace TableOf

variable {α : Type}

/-- A table without entries. -/
def empty (kind : TableKind) : TableOf α := ⟨kind, []⟩

def find? (t : TableOf α) (name : String) : Option (Entry α) :=
  t.entries.find? fun e => e.key.name == name

/-- The table with a new entry at the end. -/
def push (t : TableOf α) (e : Entry α) : TableOf α := { t with entries := t.entries ++ [e] }

/-- The table without the entry of a name. -/
def erase (t : TableOf α) (name : String) : TableOf α :=
  { t with entries := t.entries.filter fun e => e.key.name != name }

/-- The table with the entry of the same name replaced. -/
def replace (t : TableOf α) (e : Entry α) : TableOf α :=
  { t with entries := t.entries.map fun old => if old.key.name == e.key.name then e else old }

end TableOf

end Curfew.Toml
