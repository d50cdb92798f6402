import Vivarium.Json.Basic

/-!
# Tables of TOML

A TOML document builds a tree of tables piece by piece.  Which pieces may be
added to a table depends on how the table came about: by a header of its own, as
a step on the path of another header, or as a step of a dotted key.  A header
may complete a table that so far was only a step of headers; a dotted key may
pass through tables that are steps, but the table that it adds to must consist of
dotted keys only.  Nothing may be given twice.

Main definitions:

* `Node`: a value, a table with its origin, or a list of tables;
* `updateAt?`: a table changed at the end of a path;
* `addPair?`, `openTable?`, `openItem?`: what a line of a document adds.
-/

namespace Vivarium.Toml

/-- How a table came about. -/
inductive Origin where
  | header
  | step
  | dotted
  deriving Repr, DecidableEq

/-- What a key of a table stands for.  The tables of a list are in order. -/
inductive Node where
  | value (json : Json)
  | table (origin : Origin) (entries : List (String × Node))
  | tables (items : List (List (String × Node)))

/-- The entries of a table, in the order in which they were added. -/
abbrev Entries := List (String × Node)

namespace Entries

/-- The entries with another node for a key. -/
def put (entries : Entries) (key : String) (node : Node) : Entries :=
  if entries.any fun entry => entry.1 = key then
    entries.map fun entry => if entry.1 = key then (key, node) else entry
  else entries ++ [(key, node)]

/-- A table changed at the end of a path.  Tables that are missing on the way are
added; of a list of tables the path enters the last one.  A dotted path must not
enter a table that has a header.  The change is given the origin of its table. -/
def updateAt? (dotted : Bool) (change : Origin → Entries → Option Entries) :
    List String → Origin → Entries → Option Entries
  | [], origin, entries => change origin entries
  | key :: path, _, entries =>
      match entries.lookup key with
      | none => do
          let origin := if dotted then Origin.dotted else Origin.step
          let below ← updateAt? dotted change path origin []
          return entries.put key (.table origin below)
      | some (.value _) => none
      | some (.table origin below) =>
          if dotted && origin = .header then none
          else do
            let below ← updateAt? dotted change path origin below
            return entries.put key (.table origin below)
      | some (.tables items) => do
          let below ← updateAt? dotted change path .header (items.getLast?.getD [])
          return entries.put key (.tables (items.dropLast ++ [below]))

/-- The entries with a new value at the end of a dotted key. -/
def addPair? (entries : Entries) (path : List String) (key : String) (value : Json) :
    Option Entries :=
  let add (origin : Origin) (entries : Entries) : Option Entries :=
    if (!path.isEmpty && origin ≠ .dotted) || (entries.lookup key).isSome then none
    else some (entries ++ [(key, .value value)])
  updateAt? true add path .header entries

/-- A table at the end of a header's path with its entries changed: a new one, or
one that was only a step so far. -/
def openTable? (fill : Entries → Option Entries) (path : List String) (key : String)
    (entries : Entries) : Option Entries :=
  let add (_ : Origin) (entries : Entries) : Option Entries :=
    match entries.lookup key with
    | none => (fill []).map fun below => entries.put key (.table .header below)
    | some (.table .step below) =>
        (fill below).map fun below => entries.put key (.table .header below)
    | some _ => none
  updateAt? false add path .header entries

/-- One more table in the list at the end of a header's path. -/
def openItem? (fill : Entries → Option Entries) (path : List String) (key : String)
    (entries : Entries) : Option Entries :=
  let add (_ : Origin) (entries : Entries) : Option Entries :=
    match entries.lookup key with
    | none => (fill []).map fun below => entries.put key (.tables [below])
    | some (.tables items) =>
        (fill []).map fun below => entries.put key (.tables (items ++ [below]))
    | some _ => none
  updateAt? false add path .header entries

end Entries

mutual

/-- A node as a value. -/
def Node.toJson : Node → Json
  | .value json => json
  | .table _ entries => .object (entryMembers entries)
  | .tables items => .array (tableItems items)

/-- The entries of a table as members. -/
def entryMembers : List (String × Node) → List (Option String × Json)
  | [] => []
  | (key, node) :: rest => (some key, node.toJson) :: entryMembers rest

/-- The tables of a list as items. -/
def tableItems : List (List (String × Node)) → List Json
  | [] => []
  | entries :: rest => .object (entryMembers entries) :: tableItems rest

end

/-- The entries of a table as a value. -/
def Entries.toJson (entries : Entries) : Json := .object (entryMembers entries)

end Vivarium.Toml
