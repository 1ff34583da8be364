import LedgerClient.Decimal.Notation
import LedgerClient.Json.Tree
import LedgerClient.Text.Quoted

/-! # Writing JSON

Without blanks, members in order of their names, and only quotes, backslashes and
control characters escaped.
-/

namespace LedgerClient.Json

/-- Doubles are written out from 0.00001 up to sixteen digits before the point, and
have a point or an exponent always. -/
def doubleStyle : DecimalStyle :=
  { leastPoint := -4, greatestPoint := 16, wholeEnding := ".0", exponentMark := "e+"
    negativeExponentMark := "e-" }

/-- The text of a number. -/
def Number.render : Number → String
  | .integer n => toString n
  | .double x => doubleStyle.render x

/-- A character as it stands in a text. -/
def escape (c : Char) : List Char :=
  if c = '"' ∨ c = '\\' then ['\\', c]
  else if c = '\x08' then ['\\', 'b']
  else if c = '\x0c' then ['\\', 'f']
  else if c = '\n' then ['\\', 'n']
  else if c = '\r' then ['\\', 'r']
  else if c = '\t' then ['\\', 't']
  else if c.toNat < 32 then
    ['\\', 'u', '0', '0', Quoted.hexDigit (c.toNat / 16), Quoted.hexDigit (c.toNat % 16)]
  else [c]

/-- A text in quotes. -/
def quote (text : String) : String :=
  String.ofList ('"' :: text.toList.flatMap escape ++ ['"'])

mutual

/-- The text of a value, after text already written. -/
def renderOnto (written : String) : Json → String
  | .null => written ++ "null"
  | .bool true => written ++ "true"
  | .bool false => written ++ "false"
  | .number n => written ++ n.render
  | .text t => written ++ quote t
  | .array items => renderItems (written ++ "[") "" items
  | .object members => renderMembers (written ++ "\x7b") "" members

/-- The items of an array and its end; `separator` stands before the first. -/
def renderItems (written separator : String) : List Json → String
  | [] => written ++ "]"
  | item :: rest => renderItems (renderOnto (written ++ separator) item) "," rest

/-- The members of an object and its end; `separator` stands before the first. -/
def renderMembers (written separator : String) : List (String × Json) → String
  | [] => written ++ "\x7d"
  | (name, value) :: rest =>
    renderMembers (renderOnto (written ++ separator ++ quote name ++ ":") value) "," rest

end

/-- The text of a value. -/
def render (json : Json) : String := renderOnto "" json

end LedgerClient.Json
