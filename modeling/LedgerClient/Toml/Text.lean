import LedgerClient.Text.Numeral

/-! # Lines, names and texts of TOML

The pieces below the level of values. A text may span lines between three quotes,
where one or two quotes stand for themselves; a newline right after the opening
ones is not part of it, and a line that ends in a backslash is joined to the next
character that is no blank.
-/

namespace LedgerClient.Toml

/-- Whether a character separates words on a line. -/
def isBlank (c : Char) : Bool := c == ' ' || c == '\t'

/-- Whether a character is a control character other than a tab. -/
def isControl (c : Char) : Bool := c.toNat < 32 && c != '\t' || c.toNat == 127

/-- What follows the blanks at the front. -/
def skipBlanks (cs : List Char) : List Char := cs.dropWhile isBlank

/-- What follows a newline at the front. -/
def afterNewline? : List Char → Option (List Char)
  | '\n' :: rest => some rest
  | '\r' :: '\n' :: rest => some rest
  | _ => none

/-- What follows a comment, up to the end of its line. -/
def skipComment? : List Char → Option (List Char)
  | '#' :: rest =>
    let stops := rest.dropWhile fun c => !isControl c
    if stops.isEmpty || (afterNewline? stops).isSome then some stops else none
  | cs => some cs

/-- What follows the end of a line, after blanks and a comment. -/
def endLine? (cs : List Char) : Option (List Char) := do
  match ← skipComment? (skipBlanks cs) with
  | [] => some []
  | rest => afterNewline? rest

/-- What follows blanks, comments and newlines. `inComment` is set after a number
sign, up to the end of its line. -/
def skipLinesFrom (inComment : Bool) : List Char → Option (List Char)
  | [] => some []
  | '\n' :: rest => skipLinesFrom false rest
  | '\r' :: '\n' :: rest => skipLinesFrom false rest
  | c :: rest =>
    if inComment then if isControl c then none else skipLinesFrom true rest
    else if c = '#' then skipLinesFrom true rest
    else if isBlank c then skipLinesFrom false rest
    else some (c :: rest)

/-- What follows blanks, comments and newlines at the front. -/
def skipLines? (cs : List Char) : Option (List Char) := skipLinesFrom false cs

/-- The character of a code point in hexadecimal. -/
def ofHex? (digits : List Char) : Option Char := do
  let n ← Numeral.parse? 16 digits
  if n.isValidChar then some (Char.ofNat n) else none

/-- What a backslash and a letter stand for. -/
def shortEscape? : Char → Option Char
  | 'b' => some '\x08'
  | 'e' => some '\x1b'
  | 't' => some '\t'
  | 'n' => some '\n'
  | 'f' => some '\x0c'
  | 'r' => some '\r'
  | '"' => some '"'
  | '\\' => some '\\'
  | _ => none

/-- A text with escapes on one line, after its opening quote. -/
def basicOnto (found : List Char) : List Char → Option (String × List Char)
  | '"' :: rest => some (String.ofList found.reverse, rest)
  | '\\' :: 'x' :: a :: b :: rest =>
    match ofHex? [a, b] with
    | some next => basicOnto (next :: found) rest
    | none => none
  | '\\' :: 'u' :: a :: b :: c :: d :: rest =>
    match ofHex? [a, b, c, d] with
    | some next => basicOnto (next :: found) rest
    | none => none
  | '\\' :: 'U' :: a :: b :: c :: d :: e :: f :: g :: h :: rest =>
    match ofHex? [a, b, c, d, e, f, g, h] with
    | some next => basicOnto (next :: found) rest
    | none => none
  | '\\' :: letter :: rest =>
    match shortEscape? letter with
    | some next => basicOnto (next :: found) rest
    | none => none
  | c :: rest => if isControl c then none else basicOnto (c :: found) rest
  | [] => none

/-- A text without escapes on one line, after its opening apostrophe. -/
def literalOnto (found : List Char) : List Char → Option (String × List Char)
  | '\'' :: rest => some (String.ofList found.reverse, rest)
  | c :: rest => if isControl c then none else literalOnto (c :: found) rest
  | [] => none

/-- Whether only blanks are left on a line. -/
def isLineEnd (cs : List Char) : Bool := (afterNewline? (skipBlanks cs)).isSome

/-- A text with escapes over several lines, after its opening quotes. `joining` is
set after a backslash at the end of a line. -/
def basicLinesOnto (joining : Bool) (found : List Char) : List Char → Option (String × List Char)
  | '"' :: '"' :: '"' :: '"' :: '"' :: rest =>
    some (String.ofList ('"' :: '"' :: found).reverse, rest)
  | '"' :: '"' :: '"' :: '"' :: rest => some (String.ofList ('"' :: found).reverse, rest)
  | '"' :: '"' :: '"' :: rest => some (String.ofList found.reverse, rest)
  | '\\' :: 'x' :: a :: b :: rest =>
    match ofHex? [a, b] with
    | some next => basicLinesOnto false (next :: found) rest
    | none => none
  | '\\' :: 'u' :: a :: b :: c :: d :: rest =>
    match ofHex? [a, b, c, d] with
    | some next => basicLinesOnto false (next :: found) rest
    | none => none
  | '\\' :: 'U' :: a :: b :: c :: d :: e :: f :: g :: h :: rest =>
    match ofHex? [a, b, c, d, e, f, g, h] with
    | some next => basicLinesOnto false (next :: found) rest
    | none => none
  | '\r' :: '\n' :: rest =>
    basicLinesOnto joining (if joining then found else '\n' :: '\r' :: found) rest
  | '\n' :: rest => basicLinesOnto joining (if joining then found else '\n' :: found) rest
  | '\\' :: letter :: rest =>
    match shortEscape? letter with
    | some next => basicLinesOnto false (next :: found) rest
    | none =>
      if isLineEnd (letter :: rest) then basicLinesOnto true found (letter :: rest) else none
  | c :: rest =>
    if joining && isBlank c then basicLinesOnto true found rest
    else if isControl c then none
    else basicLinesOnto false (c :: found) rest
  | [] => none

/-- A text without escapes over several lines, after its opening apostrophes. -/
def literalLinesOnto (found : List Char) : List Char → Option (String × List Char)
  | '\'' :: '\'' :: '\'' :: '\'' :: '\'' :: rest =>
    some (String.ofList ('\'' :: '\'' :: found).reverse, rest)
  | '\'' :: '\'' :: '\'' :: '\'' :: rest => some (String.ofList ('\'' :: found).reverse, rest)
  | '\'' :: '\'' :: '\'' :: rest => some (String.ofList found.reverse, rest)
  | '\r' :: '\n' :: rest => literalLinesOnto ('\n' :: '\r' :: found) rest
  | '\n' :: rest => literalLinesOnto ('\n' :: found) rest
  | c :: rest => if isControl c then none else literalLinesOnto (c :: found) rest
  | [] => none

/-- What follows a newline right after opening quotes. -/
def skipFirstNewline (cs : List Char) : List Char := (afterNewline? cs).getD cs

/-- A text at the front, if one begins there. -/
def text? : List Char → Option (String × List Char)
  | '"' :: '"' :: '"' :: rest => basicLinesOnto false [] (skipFirstNewline rest)
  | '\'' :: '\'' :: '\'' :: rest => literalLinesOnto [] (skipFirstNewline rest)
  | '"' :: rest => basicOnto [] rest
  | '\'' :: rest => literalOnto [] rest
  | _ => none

/-- Whether a character may stand in a name without quotes. -/
def isBare (c : Char) : Bool := c.isAlphanum || c == '_' || c == '-'

/-- A name at the front. -/
def name? : List Char → Option (String × List Char)
  | '"' :: rest => basicOnto [] rest
  | '\'' :: rest => literalOnto [] rest
  | cs =>
    match cs.takeWhile isBare with
    | [] => none
    | found => some (String.ofList found, cs.dropWhile isBare)

/-- How deep values may be nested, and how many names points may join. -/
def depthLimit : Nat := 80

/-- Names with points between them at the front, and what follows them and blanks.
At most as many as the first argument says. -/
def namesUpTo : Nat → List Char → Option (List String × List Char)
  | 0, _ => none
  | count + 1, cs => do
    let (name, rest) ← name? (skipBlanks cs)
    match skipBlanks rest with
    | '.' :: more =>
      let (names, after) ← namesUpTo count more
      return (name :: names, after)
    | after => return ([name], after)

/-- Names with points between them at the front. -/
def names? (cs : List Char) : Option (List String × List Char) := namesUpTo depthLimit cs

end LedgerClient.Toml
