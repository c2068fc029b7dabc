import Curfew.Toml.Value

/-!
# What a table may still take in

Tables grow by headers and by dotted keys. **`Table.alter`** walks down a path, making the tables
that are missing on the way, and refuses to pass through anything that is closed to such a walk.
**`Table.assign`** defines one key.
-/

namespace Curfew.Toml

/-- What a walk is for: it makes tables of this kind and passes only through tables open to it. -/
inductive Walk
  | header
  | dotted
deriving DecidableEq, Repr

/-- The kind of the tables that a walk makes. -/
def Walk.makes : Walk → TableKind
  | .header => .implicit
  | .dotted => .dotted

/-- Whether a walk may pass through a table. Headers pass through all but tables in braces; dotted
keys only through tables without a definition of their own. -/
def TableKind.opensTo (kind : TableKind) : Walk → Bool
  | .header => kind != .inline
  | .dotted => kind == .implicit || kind == .dotted

namespace Table

/-- Applies `change` to the table at the end of a path, which may also yield a result; the last
element stands for an array of tables. `none` where the path is closed or `change` refuses. -/
def alter {β : Type} (walk : Walk) (change : Table → Option (β × Table)) :
    List Key → Table → Option (β × Table)
  | [], t => change t
  | key :: path, t =>
    match t.find? key.name with
    | none =>
      (alter walk change path (.empty walk.makes)).map fun (result, sub) =>
        (result, t.push ⟨key, none, .table sub⟩)
    | some entry =>
      match entry.value with
      | .table sub =>
        if sub.kind.opensTo walk then
          (alter walk change path sub).map fun (result, sub) =>
            (result, t.replace { entry with value := .table sub })
        else none
      | .tables elements =>
        match elements.reverse with
        | [] => none
        | last :: before =>
          (alter walk change path last.value).map fun (result, sub) =>
            (result,
              t.replace
                { entry with
                  value := .tables (before.reverse ++ [{ last with value := sub }]) })
      | _ => none

/-- Defines `key` in the table at the end of a dotted path. A key with dots defines within a table
that dotted keys made, and only there; no key is defined twice. -/
def assign (path : List Key) (entry : Entry Value) (t : Table) : Option Table :=
  let define (t : Table) : Option (Unit × Table) :=
    if (t.kind == .dotted) == path.isEmpty then none
    else if (t.find? entry.key.name).isSome then none
    else some ((), t.push entry)
  (alter .dotted define path t).map Prod.snd

end Table

end Curfew.Toml
