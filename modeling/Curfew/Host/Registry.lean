/-!
# Numbered things

A **`Registry`** keeps things under numbers, as a system keeps its processes, its open files and
the descriptors of each process.
-/

namespace Curfew.Host

/-- Things under numbers, in the order in which they came. -/
structure Registry (α : Type) where
  entries : List (Nat × α)

namespace Registry

variable {α : Type}

/-- Nothing yet. -/
def empty : Registry α := ⟨[]⟩

def get? (r : Registry α) (n : Nat) : Option α :=
  (r.entries.find? fun entry => entry.1 == n).map Prod.snd

/-- Whether anything is kept under a number. -/
def contains (r : Registry α) (n : Nat) : Bool := r.entries.any fun entry => entry.1 == n

/-- Puts something under a number, in the place of what was there. -/
def set (r : Registry α) (n : Nat) (a : α) : Registry α :=
  if r.contains n then
    ⟨r.entries.map fun entry => if entry.1 == n then (n, a) else entry⟩
  else ⟨r.entries ++ [(n, a)]⟩

/-- Changes what is kept under a number. -/
def modify (r : Registry α) (n : Nat) (f : α → α) : Registry α :=
  ⟨r.entries.map fun entry => if entry.1 == n then (n, f entry.2) else entry⟩

/-- Keeps nothing under a number any more. -/
def erase (r : Registry α) (n : Nat) : Registry α :=
  ⟨r.entries.filter fun entry => entry.1 != n⟩

def numbers (r : Registry α) : List Nat := r.entries.map Prod.fst

def values (r : Registry α) : List α := r.entries.map Prod.snd

/-- The least number from `first` on that is not in use. -/
def leastFree (r : Registry α) (first : Nat) : Nat :=
  ((List.range (r.entries.length + 1)).map (· + first)).find? (fun n => !r.contains n) |>.getD first

end Registry

end Curfew.Host
