import Listing.Json.Basic

/-!
# Tables of a configuration

The tables that are being filled while a configuration file is read, and the rules about what may
be added: no key twice, no table twice, nothing into a value, and keys with dots only into tables
that such keys have made.
-/

namespace Listing.Toml

/-- What made a table. -/
inductive Origin where
  /-- A header of its own, or the file. -/
  | header
  /-- The header of a table inside it. -/
  | implied
  /-- A key with dots. -/
  | dotted
deriving DecidableEq, Repr

/-- What stands under a key. -/
inductive Node where
  /-- A value. -/
  | value (j : Json)
  /-- A table. -/
  | table (origin : Origin) (entries : List (String × Node))
  /-- A list of tables, last one first. -/
  | tables (last : List (String × Node)) (before : List (List (String × Node)))

/-- The contents of a table. -/
abbrev Entries := List (String × Node)

/-- Puts something under a key, in place of what is there. -/
def put (key : String) (node : Node) (entries : Entries) : Entries :=
  (key, node) :: entries.filter (·.1 ≠ key)

/-- What a change makes of a table. -/
abbrev Change := Origin → Entries → Option (Origin × Entries)

/-- Changes the table that a path leads to. Tables that are missing are made; `dotted` says whether
the path is that of a key. -/
def change (dotted : Bool) (f : Change) : List String → Change
  | [], origin, entries => f origin entries
  | key :: path, origin, entries =>
    match entries.lookup key with
    | none =>
      (change dotted f path (if dotted then .dotted else .implied) []).map fun (o, es) =>
        (origin, put key (.table o es) entries)
    | some (.table o es) =>
      if dotted && o = .header then none
      else (change dotted f path o es).map fun (o, es) => (origin, put key (.table o es) entries)
    | some (.tables last before) =>
      (change dotted f path .header last).map fun (_, es) =>
        (origin, put key (.tables es before) entries)
    | some (.value _) => none

/-- Adds a value under the last key of a path. -/
def addValue (path : List String) (j : Json) : Change :=
  let parents := path.dropLast
  change true (fun origin entries =>
    let key := path.getLast?.getD ""
    if (origin = .dotted) ≠ !parents.isEmpty then none
    else if (entries.lookup key).isSome then none
    else some (origin, put key (.value j) entries)) parents

/-- Adds a table. One that was implied before is now there. -/
def addTable (path : List String) : Change :=
  change false (fun origin entries =>
    let key := path.getLast?.getD ""
    match entries.lookup key with
    | none => some (origin, put key (.table .header []) entries)
    | some (.table .implied es) => some (origin, put key (.table .header es) entries)
    | _ => none) path.dropLast

/-- Adds a table to a list of tables. -/
def addToTables (path : List String) : Change :=
  change false (fun origin entries =>
    let key := path.getLast?.getD ""
    match entries.lookup key with
    | none => some (origin, put key (.tables [] []) entries)
    | some (.tables last before) => some (origin, put key (.tables [] (last :: before)) entries)
    | _ => none) path.dropLast

mutual

/-- What stands under a key as a document. -/
def Node.json : Node → Json
  | .value j => j
  | .table _ entries => .ofPairs (entriesJson entries)
  | .tables last before =>
    .array ((.ofPairs (entriesJson last) :: tablesJson before).reverse)

/-- The contents of a table as members. -/
def entriesJson : List (String × Node) → List (String × Json)
  | [] => []
  | (key, node) :: rest => (key, node.json) :: entriesJson rest

/-- Tables as documents. -/
def tablesJson : List (List (String × Node)) → List Json
  | [] => []
  | entries :: rest => .ofPairs (entriesJson entries) :: tablesJson rest

end

end Listing.Toml
