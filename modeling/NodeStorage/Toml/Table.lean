import NodeStorage.Document

/-! Tables while a TOML text is read. A table remembers how it came to be, since that decides what
may still be added to it: one named by a header is closed to dotted keys, one made by dotted keys
is closed to headers and to plain keys, and one that only lies on the way to another is open to a
header of its own. A list of tables is entered at its last element. -/

namespace NodeStorage.Toml

inductive Origin where
  | implied
  | dotted
  | header
  deriving DecidableEq, Repr

inductive Node where
  | value (v : Document)
  | table (origin : Origin) (entries : List (String × Node))
  | tables (elements : List (List (String × Node)))

abbrev Entries := List (String × Node)

mutual

def Node.document : Node → Document
  | .value v => v
  | .table _ entries => .record (entryDocuments entries)
  | .tables elements => .list (elementDocuments elements)

def entryDocuments : List (String × Node) → List (String × Document)
  | [] => []
  | (key, node) :: rest => (key, node.document) :: entryDocuments rest

def elementDocuments : List (List (String × Node)) → List Document
  | [] => []
  | entries :: rest => .record (entryDocuments entries) :: elementDocuments rest

end

/-- Changes the table that `path` leads to. Tables that are not there yet are made on the way; a
walk along dotted keys enters no table that a header has named. -/
def within (dotted : Bool) (change : Origin → Entries → Option Entries) :
    List String → Origin → Entries → Option Entries
  | [], origin, entries => change origin entries
  | key :: path, _, entries =>
    match entries.lookup key with
    | none => do
      let origin := if dotted then .dotted else .implied
      let inner ← within dotted change path origin []
      return Keyed.put key (.table origin inner) entries
    | some (.table origin inner) =>
      if dotted && origin == .header then none
      else do
        let inner ← within dotted change path origin inner
        return Keyed.put key (.table origin inner) entries
    | some (.tables elements) => do
      let last ← elements.getLast?
      let inner ← within dotted change path .header last
      return Keyed.put key (.tables (elements.dropLast ++ [inner])) entries
    | some (.value _) => none

/-- Adds a new key to a table that was made by dotted keys exactly if the key is itself dotted. -/
def addKey (dotted : Bool) (key : String) (v : Document) (origin : Origin) (entries : Entries) :
    Option Entries :=
  if (origin == .dotted) == dotted && (entries.lookup key).isNone then
    some (entries ++ [(key, .value v)])
  else none

def assign (key : List String) (v : Document) (origin : Origin) (entries : Entries) :
    Option Entries :=
  match key.getLast? with
  | none => none
  | some last =>
    let path := key.dropLast
    within true (addKey (!path.isEmpty) last v) path origin entries

def openTable (key : String) (_ : Origin) (entries : Entries) : Option Entries :=
  match entries.lookup key with
  | none => some (entries ++ [(key, .table .header [])])
  | some (.table .implied inner) => some (Keyed.put key (.table .header inner) entries)
  | some _ => none

def openElement (key : String) (_ : Origin) (entries : Entries) : Option Entries :=
  match entries.lookup key with
  | none => some (entries ++ [(key, .tables [[]])])
  | some (.tables elements) => some (Keyed.put key (.tables (elements ++ [[]])) entries)
  | some _ => none

inductive Statement where
  | table (path : List String)
  | element (path : List String)
  | assignment (key : List String) (v : Document)

structure Reading where
  path : List String
  root : Entries

def Reading.start : Reading := ⟨[], []⟩

def underHeader (openLast : String → Origin → Entries → Option Entries) (path : List String)
    (root : Entries) : Option Reading := do
  let last ← path.getLast?
  let root ← within false (openLast last) path.dropLast .header root
  return ⟨path, root⟩

def Reading.step (r : Reading) : Statement → Option Reading
  | .table path => underHeader openTable path r.root
  | .element path => underHeader openElement path r.root
  | .assignment key v =>
    (within false (assign key v) r.path .header r.root).map fun root => ⟨r.path, root⟩

def ofStatements? (statements : List Statement) : Option Document :=
  (statements.foldlM Reading.step .start).map fun r => .record (entryDocuments r.root)

/-- The table between braces, which nothing outside them can extend. -/
def ofAssignments? (entries : List (List String × Document)) : Option Document :=
  (entries.foldlM (fun t (key, v) => assign key v .header t) []).map fun t =>
    .record (entryDocuments t)

end NodeStorage.Toml
