import LedgerClient.Settings.Setting

/-! # Tables of a TOML document

A table is made by a header, by a path that leads to another header, or by the
points in a name. How it was made decides whether it may be opened again: a header
may open what only a path has made, and names with points what no header has opened.
A table that names with points have gone through counts as made by them.
-/

namespace LedgerClient.Toml

/-- What made a table. -/
inductive TableOrigin where
  | header
  /-- The path of a header that leads further. -/
  | path
  /-- The points in a name. -/
  | points
deriving DecidableEq

/-- What a name stands for while a document is read. -/
inductive Node where
  /-- A value that nothing is added to. -/
  | leaf (value : Setting)
  | table (origin : TableOrigin) (entries : List (String × Node))
  /-- Tables under one name; what is added goes to the last. -/
  | tables (earlier : List (List (String × Node))) (last : List (String × Node))

/-- The entries of a table while a document is read. -/
abbrev Entries := List (String × Node)

namespace Entries

/-- Set what a name stands for; a new name goes last. -/
def set (name : String) (node : Node) : Entries → Entries
  | [] => [(name, node)]
  | entry :: rest => if entry.1 = name then (name, node) :: rest else entry :: set name node rest

/-- Change the table at the end of a path. Tables that are missing are made; `byPoints`
says whether the path is a name with points or the path of a header. -/
def change (byPoints : Bool) (update : TableOrigin → Entries → Option Entries) :
    List String → TableOrigin → Entries → Option Entries
  | [], origin, entries => update origin entries
  | name :: rest, _, entries =>
    match entries.lookup name with
    | none => do
      let origin := if byPoints then TableOrigin.points else .path
      return entries.set name (.table origin (← change byPoints update rest origin []))
    | some (.leaf _) => none
    | some (.table origin inner) =>
      if byPoints ∧ origin = .header then none
      else do
        let next := if byPoints then TableOrigin.points else origin
        return entries.set name (.table next (← change byPoints update rest next inner))
    | some (.tables earlier last) => do
      return entries.set name (.tables earlier (← change byPoints update rest .header last))

/-- Open the table of a header. -/
def openTable (name : String) (_ : TableOrigin) (entries : Entries) : Option Entries :=
  match entries.lookup name with
  | none => some (entries.set name (.table .header []))
  | some (.table .path inner) => some (entries.set name (.table .header inner))
  | some _ => none

/-- Begin one more table under the name of a header. -/
def openNext (name : String) (_ : TableOrigin) (entries : Entries) : Option Entries :=
  match entries.lookup name with
  | none => some (entries.set name (.tables [] []))
  | some (.tables earlier last) => some (entries.set name (.tables (earlier ++ [last]) []))
  | some _ => none

/-- Give a name its value in a table. A name with points ends in a table that such
names have made. -/
def define (name : String) (value : Setting) (hasPoints : Bool) (origin : TableOrigin)
    (entries : Entries) : Option Entries :=
  if hasPoints ∧ origin ≠ .points ∨ ¬hasPoints ∧ origin = .points then none
  else
    match entries.lookup name with
    | none => some (entries.set name (.leaf value))
    | some _ => none

/-- Give a name with or without points its value. -/
def assign (path : List String) (value : Setting) (origin : TableOrigin) (entries : Entries) :
    Option Entries :=
  match path.getLast? with
  | none => none
  | some name =>
    let front := path.dropLast
    change true (define name value (!front.isEmpty)) front origin entries

end Entries

mutual

/-- The setting of a node. -/
def Node.setting : Node → Setting
  | .leaf value => value
  | .table _ entries => .table (entrySettings entries)
  | .tables earlier last => .list (tableSettings earlier ++ [.table (entrySettings last)])

/-- The settings of entries. -/
def entrySettings : List (String × Node) → List (String × Setting)
  | [] => []
  | (name, node) :: rest => (name, node.setting) :: entrySettings rest

/-- The settings of tables under one name. -/
def tableSettings : List (List (String × Node)) → List Setting
  | [] => []
  | entries :: rest => .table (entrySettings entries) :: tableSettings rest

end

end LedgerClient.Toml
