import LedgerClient.Net.Host
import LedgerClient.Text.Blank

/-! # Addresses on the web

An address begins with a scheme. The schemes of the web have a host always; a
backslash counts as a slash in them, and how many slashes stand before the host does
not matter. Other schemes have a host after two slashes only.
-/

namespace LedgerClient

/-- An address on the web. -/
structure Url where
  scheme : String
  /-- The server, if the address names one. -/
  host : Option Host
  port : Option UInt16
  /-- What follows the server, as it is spelled. -/
  path : String
deriving DecidableEq

namespace Url

/-- How the rest of an address is read. -/
inductive SchemeClass where
  /-- A scheme of the web. -/
  | web
  | file
  | other
deriving DecidableEq

/-- The class of a scheme. -/
def classOf (scheme : String) : SchemeClass :=
  if scheme = "file" then .file
  else if ["http", "https", "ws", "wss", "ftp"].contains scheme then .web
  else .other

/-- The characters that count: not those around the address, and no line breaks or tabs. -/
def significant (text : String) : List Char :=
  let isBreak := fun c : Char => c == '\t' || c == '\n' || c == '\r'
  (stripEnds (fun c => decide (c.toNat ≤ 32)) text.toList).filter (!isBreak ·)

/-- Whether a scheme can have a character. -/
def isSchemeChar (c : Char) : Bool := c.isAlphanum || ['+', '-', '.'].contains c

/-- The scheme, in lowercase letters, and what follows its colon. -/
def splitScheme? (cs : List Char) : Option (String × List Char) :=
  match cs.head?, cs.dropWhile isSchemeChar with
  | some first, ':' :: rest =>
    if first.isAlpha then
      some (String.ofList ((cs.takeWhile isSchemeChar).map Char.toLower), rest)
    else none
  | _, _ => none

/-- Whether a character ends the part of an address that names the server. -/
def endsServer (kind : SchemeClass) (c : Char) : Bool :=
  ['/', '?', '#'].contains c || (kind == .web && c == '\\')

/-- What follows the last character `@`, and what stands before it. -/
def splitUser (server : List Char) : Option (List Char) × List Char :=
  if server.contains '@' then
    let reversed := server.reverse
    (some (reversed.dropWhile (· != '@')).tail.reverse, (reversed.takeWhile (· != '@')).reverse)
  else (none, server)

/-- How many characters of a server belong to its host: those up to a colon that does
not stand in brackets. -/
def hostLength (inBrackets : Bool) : List Char → Nat
  | [] => 0
  | c :: rest =>
    if c = ':' ∧ !inBrackets then 0
    else hostLength (if c = '[' then true else if c = ']' then false else inBrackets) rest + 1

/-- The number of a port; without digits there is none. -/
def port? (digits : List Char) : Except UrlFault (Option UInt16) :=
  if digits.isEmpty then .ok none
  else match Numeral.parse? 10 digits with
    | some n => if n < 65536 then .ok (some (UInt16.ofNat n)) else .error .badPort
    | none => .error .badPort

/-- The host of a server; a scheme of the web cannot do without one. -/
def host? (kind : SchemeClass) (text : String) : Except UrlFault (Option Host) :=
  if text.isEmpty then if kind = .web then .error .emptyHost else .ok none
  else
    let unbracketed := if kind = .other then Host.ofOpaque else Host.ofName
    (Host.parse unbracketed text).map some

/-- An address whose server comes next: a user, a host and a port. A user or a port
without a host is refused. -/
def ofServer (scheme : String) (kind : SchemeClass) (cs : List Char) : Except UrlFault Url := do
  let (user, server) := splitUser (cs.takeWhile (!endsServer kind ·))
  let path := cs.dropWhile (!endsServer kind ·)
  if user = some [] ∧ server = [] ∧ path ≠ [] then throw .emptyHost
  let length := hostLength false server
  let host ← host? kind (String.ofList (server.take length))
  let rest := server.drop length
  if host.isNone ∧ rest ≠ [] then throw .emptyHost
  -- In a port, a backslash ends the server whatever the scheme.
  let digits := rest.tail.takeWhile (· != '\\')
  let port ← port? digits
  if host.isNone ∧ user.any fun user => user ≠ [] ∧ user ≠ [':'] then throw .emptyHost
  return ⟨scheme, host, port, String.ofList (rest.tail.drop digits.length ++ path)⟩

/-- Whether a host is the letter of a drive, which belongs to the path. -/
def isDrive (cs : List Char) : Bool :=
  match cs with
  | [letter, mark] => letter.isAlpha && (mark == ':' || mark == '|')
  | _ => false

/-- The address of a file. After two slashes comes a host, which may be empty. -/
def ofFile (cs : List Char) : Except UrlFault Url :=
  let isSlash := fun c : Char => c == '/' || c == '\\'
  match cs with
  | a :: b :: rest =>
    if isSlash a && isSlash b then do
      let ends := fun c : Char => isSlash c || c == '?' || c == '#'
      let server := rest.takeWhile (!ends ·)
      if isDrive server then return ⟨"file", none, none, String.ofList rest⟩
      let host ← host? .file (String.ofList server)
      return ⟨"file", host, none, String.ofList (rest.dropWhile (!ends ·))⟩
    else .ok ⟨"file", none, none, String.ofList cs⟩
  | cs => .ok ⟨"file", none, none, String.ofList cs⟩

/-- The address that a text spells. -/
def parse (text : String) : Except UrlFault Url :=
  match splitScheme? (significant text) with
  | none => .error .relative
  | some (scheme, rest) =>
    match classOf scheme, rest with
    | .file, rest => ofFile rest
    | .web, rest => ofServer scheme .web (rest.dropWhile fun c => c == '/' || c == '\\')
    | .other, '/' :: '/' :: rest => ofServer scheme .other rest
    | .other, rest => .ok ⟨scheme, none, none, String.ofList rest⟩

end Url

end LedgerClient
