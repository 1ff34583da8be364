import LedgerClient.Net.Domain.Name
import LedgerClient.Net.Ipv4
import LedgerClient.Net.Ipv6
import LedgerClient.Text.Utf8

/-! # Hosts

The host of an address on the web is a name or a number, in which characters may be
escaped. Schemes that are not known have opaque hosts, which are taken as they are.
-/

namespace LedgerClient

/-- Why an address on the web is refused. -/
inductive UrlFault where
  | emptyHost
  /-- A host name is no name, be it for its characters or for how they stand. -/
  | badName
  | badPort
  | badIpv4
  | badIpv6
  /-- An opaque host has a character that none can have. -/
  | badCharacter
  /-- There is no scheme, so the address says nothing on its own. -/
  | relative
deriving DecidableEq

/-- The wording of a fault. -/
def UrlFault.message : UrlFault → String
  | emptyHost => "empty host"
  | badName => "invalid international domain name"
  | badPort => "invalid port number"
  | badIpv4 => "invalid IPv4 address"
  | badIpv6 => "invalid IPv6 address"
  | badCharacter => "invalid domain character"
  | relative => "relative URL without a base"

/-- Where a server is. -/
inductive Host where
  | name (name : String)
  | ipv4 (address : UInt32)
  | ipv6 (words : List UInt16)
deriving DecidableEq

namespace Host

/-- Put the bytes in place of their escapes: a percent sign and two digits. -/
def unescape : List UInt8 → List UInt8
  | 37 :: a :: b :: rest =>
    match Numeral.digit? (Char.ofNat a.toNat), Numeral.digit? (Char.ofNat b.toNat) with
    | some high, some low => UInt8.ofNat (16 * high + low) :: unescape rest
    | _, _ => 37 :: unescape (a :: b :: rest)
  | byte :: rest => byte :: unescape rest
  | [] => []

/-- The host that a name or a number spells. -/
def ofName (text : String) : Except UrlFault Host :=
  match Utf8.decode (unescape (Utf8.encode text)) with
  | .error _ => .error .badName
  | .ok spelled =>
    match Domain.name? spelled.toList with
    | none => .error .badName
    | some [] => .error .emptyHost
    | some cs =>
      let name := String.ofList cs
      if Ipv4.isMeant name then
        match Ipv4.parse? name with
        | some address => .ok (.ipv4 address)
        | none => .error .badIpv4
      else .ok (.name name)

/-- A host that is taken as it is. -/
def ofOpaque (text : String) : Except UrlFault Host :=
  if text.toList.any Domain.separators.contains then .error .badCharacter else .ok (.name text)

/-- A host in brackets, or one that is not. -/
def parse (unbracketed : String → Except UrlFault Host) (text : String) : Except UrlFault Host :=
  match text.toList with
  | '[' :: rest =>
    if rest.getLast? == some ']' then
      match Ipv6.parse? (String.ofList rest.dropLast) with
      | some words => .ok (.ipv6 words)
      | none => .error .badIpv6
    else .error .badIpv6
  | _ => unbracketed text

end Host

end LedgerClient
