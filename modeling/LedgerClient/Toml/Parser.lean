import LedgerClient.Toml.Document
import LedgerClient.Toml.Scalar

/-! # Reading a TOML document

Line by line: a header opens a table, a name gets a value in the table that is
open. Lists and tables in braces may span lines, with comments in them, and may end
in a comma.
-/

namespace LedgerClient.Toml

/-- The name of a member of a table in braces, and what follows the equals sign. Lines
may end on either side of the sign. -/
def memberName? (cs : List Char) : Option (List String × List Char) := do
  let (path, rest) ← names? cs
  match ← skipLines? rest with
  | '=' :: more => return (path, ← skipLines? more)
  | _ => none

mutual

/-- A value at the front, nested at most `depth` deep. Each call takes a character at
least. -/
def value? : Nat → Nat → List Char → Option (Setting × List Char)
  | 0, _, _ => none
  | fuel + 1, depth, cs =>
    match cs, depth with
    | '[' :: rest, depth + 1 => items? fuel depth [] rest
    | '{' :: rest, depth + 1 => members? fuel depth [] rest
    | '"' :: _, _ => (text? cs).map fun found => (.text found.1, found.2)
    | '\'' :: _, _ => (text? cs).map fun found => (.text found.1, found.2)
    | _, _ =>
      let (word, rest) := splitWord cs
      (scalar? word).map fun value => (value, rest)

/-- The items of a list, after items already found in reverse. -/
def items? : Nat → Nat → List Setting → List Char → Option (Setting × List Char)
  | 0, _, _, _ => none
  | fuel + 1, depth, found, cs =>
    match skipLines? cs with
    | some (']' :: rest) => some (.list found.reverse, rest)
    | some rest =>
      match value? fuel depth rest with
      | none => none
      | some (item, more) =>
        match skipLines? more with
        | some (',' :: after) => items? fuel depth (item :: found) after
        | some (']' :: after) => some (.list (item :: found).reverse, after)
        | _ => none
    | none => none

/-- The members of a table in braces, after the entries already found. -/
def members? : Nat → Nat → Entries → List Char → Option (Setting × List Char)
  | 0, _, _, _ => none
  | fuel + 1, depth, entries, cs =>
    match skipLines? cs with
    | some ('}' :: rest) => some (.table (entrySettings entries), rest)
    | some rest =>
      match memberName? rest with
      | none => none
      | some (path, more) =>
        match value? fuel depth more with
        | none => none
        | some (value, more) =>
          match entries.assign path value .header, skipLines? more with
          | some next, some (',' :: after) => members? fuel depth next after
          | some next, some ('}' :: after) => some (.table (entrySettings next), after)
          | _, _ => none
    | none => none

end

/-- How far a document has been read: its entries, and the path of the open table. -/
structure Progress where
  entries : Entries
  opened : List String

/-- Read the names of a header and what closes it. -/
def headerNames? (closing : List Char) (cs : List Char) : Option (List String × List Char) := do
  let (path, rest) ← names? cs
  if closing.isPrefixOf rest then return (path, ← endLine? (rest.drop closing.length)) else none

/-- Read one line that is not blank. The first argument is at least twice its length. -/
def line? (fuel : Nat) (progress : Progress) (cs : List Char) : Option (Progress × List Char) := do
  let openAs := fun (kind : String → TableOrigin → Entries → Option Entries)
      (path : List String) => do
    let name ← path.getLast?
    let entries ← progress.entries.change false (kind name) path.dropLast .header
    return (⟨entries, path⟩ : Progress)
  match cs with
  | '[' :: '[' :: rest =>
    let (path, after) ← headerNames? [']', ']'] rest
    return (← openAs Entries.openNext path, after)
  | '[' :: rest =>
    let (path, after) ← headerNames? [']'] rest
    return (← openAs Entries.openTable path, after)
  | cs =>
    match ← names? cs with
    | (path, '=' :: rest) =>
      let (value, more) ← value? fuel depthLimit (skipBlanks rest)
      let after ← endLine? more
      let entries ← progress.entries.change false (fun origin entries =>
        entries.assign path value origin) progress.opened .header
      return (⟨entries, progress.opened⟩, after)
    | _ => none

/-- Read all lines; each round takes a character at least. -/
def lines? : Nat → Progress → List Char → Option Entries
  | 0, _, _ => none
  | fuel + 1, progress, cs =>
    match skipLines? cs with
    | none => none
    | some [] => some progress.entries
    | some rest =>
      match line? fuel progress rest with
      | none => none
      | some (next, after) => lines? fuel next after

/-- A mark of the byte order. Up to two of them may stand in front. -/
def byteOrderMark : Char := '\ufeff'

/-- What follows a mark of the byte order at the front. -/
def skipMark : List Char → List Char
  | c :: rest => if c = byteOrderMark then rest else c :: rest
  | [] => []

/-- The settings of a document. -/
def parse? (document : String) : Option (List (String × Setting)) :=
  let body := skipMark (skipMark document.toList)
  (lines? (2 * body.length + 2) ⟨[], []⟩ body).map entrySettings

end LedgerClient.Toml
