import LedgerClient.Json.Token

/-! # The tree of a source text

The grammar is checked token by token, with the arrays and objects that are still
open on a stack, so that nesting of any depth is read. What texts and numbers
stand for is not looked at here.
-/

namespace LedgerClient.Json

/-- The tree of a source text, with texts and numbers as they are spelled. -/
abbrev Syntax := Tree RawText Literal

namespace Syntax

/-- An array or object that is still open. Items and members are in reverse. -/
inductive Open where
  | array (items : List Syntax)
  /-- The value of `name` is awaited. -/
  | object (members : List (RawText × Syntax)) (name : RawText)

/-- What may come next. -/
inductive Awaited where
  | value
  /-- The first item of an array, or its end. -/
  | itemOrEnd
  /-- A name, after members. -/
  | name (members : List (RawText × Syntax))
  /-- The first name of an object, or its end. -/
  | nameOrEnd
  | colon (members : List (RawText × Syntax)) (name : RawText)
  /-- A comma or an end, after a value. -/
  | separator (value : Syntax)

/-- How far a tree has been built. -/
structure Build where
  stack : List Open
  awaited : Awaited

/-- The build after a token that begins a value. -/
def begin (stack : List Open) : Token → Option Build
  | .null => some ⟨stack, .separator .null⟩
  | .bool b => some ⟨stack, .separator (.bool b)⟩
  | .number literal => some ⟨stack, .separator (.number literal)⟩
  | .text raw => some ⟨stack, .separator (.text raw)⟩
  | .openArray => some ⟨.array [] :: stack, .itemOrEnd⟩
  | .openObject => some ⟨stack, .nameOrEnd⟩
  | _ => none

/-- The build after a token that follows a value. -/
def follow (stack : List Open) (value : Syntax) (token : Token) : Option Build :=
  match stack, token with
  | .array items :: outer, .comma => some ⟨.array (value :: items) :: outer, .value⟩
  | .array items :: outer, .closeArray =>
    some ⟨outer, .separator (.array (value :: items).reverse)⟩
  | .object members name :: outer, .comma => some ⟨outer, .name ((name, value) :: members)⟩
  | .object members name :: outer, .closeObject =>
    some ⟨outer, .separator (.object ((name, value) :: members).reverse)⟩
  | _, _ => none

/-- The build after one more token. -/
def step (build : Build) (token : Token) : Option Build :=
  match build.awaited with
  | .value => begin build.stack token
  | .itemOrEnd =>
    match build.stack, token with
    | .array _ :: outer, .closeArray => some ⟨outer, .separator (.array [])⟩
    | stack, token => begin stack token
  | .name members =>
    match token with
    | .text name => some ⟨build.stack, .colon members name⟩
    | _ => none
  | .nameOrEnd =>
    match token with
    | .text name => some ⟨build.stack, .colon [] name⟩
    | .closeObject => some ⟨build.stack, .separator (.object [])⟩
    | _ => none
  | .colon members name =>
    match token with
    | .colon => some ⟨.object members name :: build.stack, .value⟩
    | _ => none
  | .separator value => follow build.stack value token

/-- The build after all tokens of a list. -/
def buildFrom (build : Build) : List Token → Option Build
  | [] => some build
  | token :: rest =>
    match step build token with
    | none => none
    | some next => buildFrom next rest

/-- The tree of a list of tokens, if they spell one value. -/
def ofTokens? (tokens : List Token) : Option Syntax :=
  match buildFrom ⟨[], .value⟩ tokens with
  | some ⟨[], .separator value⟩ => some value
  | _ => none

/-- The tree of a source text. -/
def parse (bytes : List UInt8) : Except Fault Syntax :=
  match (Token.ofBytes? bytes).bind ofTokens? with
  | some tree => .ok tree
  | none => .error .badSyntax

end Syntax

end LedgerClient.Json
