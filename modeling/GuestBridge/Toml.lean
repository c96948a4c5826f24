/-!
Documents of settings in TOML: tables of named nodes, and the rules by which statements build them.
A table is opened once by a header or written out in place; dotted keys and deeper headers may only
go through tables that nothing has closed.
-/

set_option autoImplicit false

namespace GuestBridge.Toml

/-- How a table came to be, which decides what may still be added to it. One that is written out in
place is closed, and one that a header names is closed to dotted keys. -/
inductive Origin
  | inPlace
  | header
  | passage
  | dotted
  deriving DecidableEq, Repr

inductive Node
  | text (s : String)
  | integer (n : Int)
  | flag (b : Bool)
  /-- A number that is not an integer. -/
  | real
  | moment
  | array (items : List Node)
  | table (origin : Origin) (entries : List (String × Node))
  /-- Tables that headers in double brackets have listed. -/
  | tables (items : List (List (String × Node)))
  deriving Repr

abbrev Entries := List (String × Node)

namespace Entries

def get? (entries : Entries) (key : String) : Option Node :=
  (entries.find? fun e => e.1 == key).map (·.2)

def put : Entries → String → Node → Entries
  | [], key, node => [(key, node)]
  | e :: rest, key, node =>
    if e.1 == key then (key, node) :: rest else e :: put rest key node

def erase (entries : Entries) (key : String) : Entries :=
  entries.filter fun e => e.1 != key

def add? (entries : Entries) (key : String) (node : Node) : Option Entries :=
  match entries.get? key with
  | some _ => none
  | none => some (entries ++ [(key, node)])

def passable (origin : Origin) (byDots : Bool) : Bool :=
  match origin with
  | .inPlace => false
  | .header => !byDots
  | .passage | .dotted => true

/-- Changes the table at the end of a path, and makes the tables on the way that are not there. A
path that comes to listed tables goes on in the last of them. -/
def changeAt (byDots : Bool) (change : Origin → Entries → Option Entries) :
    List String → Origin → Entries → Option Entries
  | [], origin, entries => change origin entries
  | key :: path, _, entries =>
    match entries.get? key with
    | none =>
      let origin := if byDots then .dotted else .passage
      (changeAt byDots change path origin []).map fun inner =>
        entries ++ [(key, .table origin inner)]
    | some (.table origin inner) =>
      if passable origin byDots then
        (changeAt byDots change path origin inner).map fun inner =>
          entries.put key (.table origin inner)
      else none
    | some (.tables items) =>
      match items.getLast? with
      | none => none
      | some inner =>
        (changeAt byDots change path .header inner).map fun inner =>
          entries.put key (.tables (items.dropLast ++ [inner]))
    | some _ => none

/-- Adds a node under a dotted key. The table that takes it must be one that dotted keys made, or
the one that the key starts from. -/
def assign? (entries : Entries) (origin : Origin) (path : List String) (key : String)
    (node : Node) : Option Entries :=
  changeAt true (fun origin inner =>
    if (origin == .dotted) == path.isEmpty then none else inner.add? key node) path origin entries

def inPlace? (pairs : List (List String × String × Node)) : Option Entries :=
  pairs.foldlM (fun entries (path, key, node) => entries.assign? .inPlace path key node) []

end Entries

inductive Statement
  | assign (path : List String) (key : String) (node : Node)
  | openTable (path : List String) (key : String)
  | openListed (path : List String) (key : String)
  deriving Repr

/-- A document being built. The table that the last header opened is kept apart until the next. -/
structure Draft where
  root : Entries
  /-- Where the open table goes: its path, its key, and whether it joins a list of tables. Nothing
  before the first header. -/
  target : Option (List String × String × Bool)
  current : Entries

namespace Draft

def empty : Draft := ⟨[], none, []⟩

def settle? (d : Draft) : Option Entries :=
  match d.target with
  | none => some d.current
  | some (path, key, false) =>
    Entries.changeAt false (fun _ inner => inner.add? key (.table .header d.current)) path .header
      d.root
  | some (path, key, true) =>
    Entries.changeAt false (fun _ inner =>
      match inner.get? key with
      | none => some (inner ++ [(key, .tables [d.current])])
      | some (.tables items) => some (inner.put key (.tables (items ++ [d.current])))
      | some _ => none) path .header d.root

/-- The table that a header finds under its key: none yet, or one that longer headers passed
through. -/
def found? : Option Node → Option Entries
  | none => some []
  | some (.table .passage inner) => some inner
  | some _ => none

def lookAt? (root : Entries) (path : List String) (key : String) : Option (Option Node) :=
  match path with
  | [] => some (root.get? key)
  | step :: rest =>
    match root.get? step with
    | none => some none
    | some (.table origin inner) =>
      if Entries.passable origin false then lookAt? inner rest key else none
    | some (.tables items) =>
      match items.getLast? with
      | none => none
      | some inner => lookAt? inner rest key
    | some _ => none

def step? (d : Draft) : Statement → Option Draft
  | .assign path key node =>
    (d.current.assign? .header path key node).map fun current => { d with current := current }
  | .openTable path key => do
    let root ← d.settle?
    let current ← found? (← lookAt? root path key)
    let root ← Entries.changeAt false (fun _ inner => some (inner.erase key)) path .header root
    return ⟨root, some (path, key, false), current⟩
  | .openListed path key => do
    let root ← d.settle?
    match ← lookAt? root path key with
    | none | some (.tables _) => return ⟨root, some (path, key, true), []⟩
    | some _ => none

end Draft

def build? (statements : List Statement) : Option Entries := do
  (← statements.foldlM Draft.step? .empty).settle?

end GuestBridge.Toml
