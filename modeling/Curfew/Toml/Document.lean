import Curfew.Toml.Statement

/-!
# Documents

A **`Document`** is built statement by statement. Headers open a table, assignments fill the one
that is open, and the next header, or the end, closes it and puts it in its place.

* **`Document.root?`** is the table that a text defines, or `none` where the text is malformed or
  defines something twice.
-/

namespace Curfew.Toml

structure OpenTable where
  path : List Key
  key : Key
  /-- Whether it is the next element of an array of tables. -/
  isElement : Bool
  table : Table
  /-- From its header to its last value. -/
  span : Span

/-- What was defined so far. Before the first header the root itself is being filled. -/
structure Document where
  root : Table
  current : Option OpenTable

namespace Document

/-- Nothing defined yet. -/
def empty : Document := ⟨.empty .header, none⟩

/-- The bytes from the first element to the last. -/
def spanOfElements (elements : List (Item Table)) : Option Span := do
  let first ← (← elements.head?).span
  let last ← (← elements.getLast?).span
  some ⟨first.start, last.stop⟩

/-- Adds an element to the array of tables under a key. -/
def addElement (key : Key) (element : Item Table) (parent : Table) : Option (Unit × Table) :=
  match parent.find? key.name with
  | some ⟨k, _, .tables elements⟩ =>
    let elements := elements ++ [element]
    some ((), parent.replace ⟨k, spanOfElements elements, .tables elements⟩)
  | _ => none

/-- Puts the open table in its place. -/
def close (doc : Document) : Option Document :=
  match doc.current with
  | none => some doc
  | some t =>
    let change (parent : Table) : Option (Unit × Table) :=
      if t.isElement then addElement t.key ⟨some t.span, t.table⟩ parent
      else some ((), parent.push ⟨t.key, some t.span, .table t.table⟩)
    (Table.alter .header change t.path doc.root).map fun (_, root) => ⟨root, none⟩

/-- Takes the table of a key out of its parent, in order to fill it. A table that so far was only on
the way to others keeps its entries; any other must be new. -/
def takeTable (key : Key) (parent : Table) : Option (Table × Table) :=
  match parent.find? key.name with
  | none => some (.empty .header, parent)
  | some entry =>
    match entry.value with
    | .table t =>
      if t.kind == .implicit then some ({ t with kind := .header }, parent.erase key.name) else none
    | _ => none

/-- Makes sure that a key holds an array of tables. -/
def needArray (key : Key) (parent : Table) : Option (Unit × Table) :=
  match parent.find? key.name with
  | none => some ((), parent.push ⟨key, none, .tables []⟩)
  | some ⟨_, _, .tables _⟩ => some ((), parent)
  | some _ => none

def apply (doc : Document) (statement : Statement) : Option Document :=
  match statement with
  | .header path key span => do
    let doc ← doc.close
    let (table, root) ← Table.alter .header (takeTable key) path doc.root
    some ⟨root, some ⟨path, key, false, table, span⟩⟩
  | .arrayHeader path key span => do
    let doc ← doc.close
    let (_, root) ← Table.alter .header (needArray key) path doc.root
    some ⟨root, some ⟨path, key, true, .empty .header, span⟩⟩
  | .assign path key x =>
    let entry : Entry Value := ⟨key, x.span, x.value⟩
    match doc.current with
    | none => (doc.root.assign path entry).map fun root => { doc with root := root }
    | some t =>
      (t.table.assign path entry).map fun table =>
        let stop := (x.span.map Span.stop).getD t.span.stop
        { doc with
          current := some { t with table := table, span := { t.span with stop := stop } } }

def ofStatements? (statements : List Statement) : Option Table := do
  let doc ← statements.foldlM apply empty
  let doc ← doc.close
  some doc.root

def root? (text : String) : Option Table := (Statement.readAll text).bind ofStatements?

end Document

end Curfew.Toml
