import LedgerClient.Decimal.Nearest
import LedgerClient.Settings.Setting
import LedgerClient.Toml.Text

/-! # Numbers, truth values and times of TOML

A value that is no text, list or table is one word, in which underscores may stand
between digits. Integers have 64 bits with sign. A time is checked and kept as its
text.
-/

namespace LedgerClient.Toml

/-- Digits in a base with single underscores between them, as numbers. -/
def digitsOnto (base : Nat) (found : List Nat) : List Char → Option (List Nat)
  | [] => if found.isEmpty then none else some found.reverse
  | c :: rest =>
    match Numeral.digitBelow? base c, rest with
    | some digit, '_' :: next :: more =>
      if next = '_' then none else digitsOnto base (digit :: found) (next :: more)
    | some digit, rest => digitsOnto base (digit :: found) rest
    | none, _ => none

/-- A sign in front, and what follows it. -/
def splitSign : List Char → Bool × List Char
  | '-' :: rest => (true, rest)
  | '+' :: rest => (false, rest)
  | cs => (false, cs)

/-- Digits of a decimal number, which do not begin with a zero unless that is all. -/
def decimalDigits? (cs : List Char) : Option (List Nat) :=
  match digitsOnto 10 [] cs with
  | some (0 :: _ :: _) => none
  | found => found

/-- An integer of 64 bits. -/
def inRange? (n : Int) : Option Setting :=
  if -2 ^ 63 ≤ n ∧ n < 2 ^ 63 then some (.integer n) else none

/-- An integer in decimal, or in another base without sign. -/
def integer? (word : List Char) : Option Setting :=
  let based := fun base digits => do
    inRange? (Positional.value base (← digitsOnto base [] digits) : Int)
  match word with
  | '0' :: 'x' :: digits => based 16 digits
  | '0' :: 'o' :: digits => based 8 digits
  | '0' :: 'b' :: digits => based 2 digits
  | word => do
    let (isNegative, digits) := splitSign word
    let n : Int := Positional.value 10 (← decimalDigits? digits)
    inRange? (if isNegative then -n else n)

/-- An exponent, after its mark. -/
def exponent? (cs : List Char) : Option Int := do
  let (isNegative, digits) := splitSign cs
  let n : Int := Positional.value 10 (← digitsOnto 10 [] digits)
  return if isNegative then -n else n

/-- A number that is not spelled as an integer. -/
def real? (word : List Char) : Option Setting := do
  let (isNegative, unsigned) := splitSign word
  if unsigned = ['i', 'n', 'f'] then return .real (.infinite isNegative)
  if unsigned = ['n', 'a', 'n'] then return .real .notANumber
  let isMark := fun c : Char => c == 'e' || c == 'E'
  let mantissa := unsigned.takeWhile fun c => !isMark c
  let whole := mantissa.takeWhile fun c => c != '.'
  let wholeDigits ← decimalDigits? whole
  let fractionDigits ←
    match mantissa.dropWhile fun c => c != '.' with
    | [] => some []
    | _ :: fraction => digitsOnto 10 [] fraction
  let exponent ←
    match unsigned.dropWhile fun c => !isMark c with
    | [] => some 0
    | _ :: exponent => exponent? exponent
  let digits := Positional.value 10 (wholeDigits ++ fractionDigits)
  let rank ← Decimal.nearestRank ⟨digits, exponent - fractionDigits.length⟩
  return .real (.finite ⟨isNegative, rank⟩)

/-! ### Times -/

/-- A number of exactly so many digits at the front. -/
def fixedNumber? (count : Nat) (cs : List Char) : Option (Nat × List Char) :=
  let digits := cs.take count
  if digits.length < count then none
  else (Numeral.parse? 10 digits).map fun n => (n, cs.drop count)

/-- What follows a character at the front. -/
def after? (c : Char) : List Char → Option (List Char)
  | first :: rest => if first = c then some rest else none
  | [] => none

/-- Days in a month. -/
def daysInMonth (year month : Nat) : Nat :=
  if month = 2 then
    if year % 4 = 0 ∧ (year % 100 ≠ 0 ∨ year % 400 = 0) then 29 else 28
  else if [4, 6, 9, 11].contains month then 30
  else 31

/-- A date at the front. -/
def date? (cs : List Char) : Option (String × List Char) := do
  let (year, cs) ← fixedNumber? 4 cs
  let (month, cs) ← fixedNumber? 2 (← after? '-' cs)
  let (day, rest) ← fixedNumber? 2 (← after? '-' cs)
  if month < 1 ∨ 12 < month ∨ day < 1 ∨ daysInMonth year month < day then none
  else return (pad 4 year ++ "-" ++ pad 2 month ++ "-" ++ pad 2 day, rest)
where
  /-- A number with zeros in front. -/
  pad (width n : Nat) : String :=
    let digits := Positional.digits 10 n
    DecimalStyle.digitText (List.replicate (width - digits.length) 0 ++ digits)

/-- The fraction of a second at the front, to nine digits without zeros at the
end except one right after the point. -/
def secondFraction? : List Char → Option (String × List Char)
  | '.' :: rest =>
    match rest.takeWhile Char.isDigit with
    | [] => none
    | digits =>
      let kept := ((digits.take 9).reverse.dropWhile (· == '0')).reverse
      some ("." ++ (if kept.isEmpty then "0" else String.ofList kept), rest.dropWhile Char.isDigit)
  | cs => some ("", cs)

/-- The seconds of a time of day at the front, with the colon before them. They may
be missing. -/
def seconds? : List Char → Option (String × List Char)
  | ':' :: cs => do
    let (second, cs) ← fixedNumber? 2 cs
    let (fraction, rest) ← secondFraction? cs
    if 60 < second then none else return (":" ++ date?.pad 2 second ++ fraction, rest)
  | cs => some ("", cs)

/-- A time of day at the front. -/
def timeOfDay? (cs : List Char) : Option (String × List Char) := do
  let (hour, cs) ← fixedNumber? 2 cs
  let (minute, cs) ← fixedNumber? 2 (← after? ':' cs)
  let (seconds, rest) ← seconds? cs
  if 23 < hour ∨ 59 < minute then none
  else return (date?.pad 2 hour ++ ":" ++ date?.pad 2 minute ++ seconds, rest)

/-- The distance from universal time, which ends a time. -/
def offset? : List Char → Option String
  | [] => some ""
  | ['Z'] => some "Z"
  | ['z'] => some "Z"
  | sign :: cs => do
    let (hour, cs) ← fixedNumber? 2 cs
    let (minute, rest) ← fixedNumber? 2 (← after? ':' cs)
    if (sign ≠ '+' ∧ sign ≠ '-') ∨ 23 < hour ∨ 59 < minute ∨ rest ≠ [] then none
    else
      let mark := if sign = '-' ∧ 0 < hour + minute then "-" else "+"
      return mark ++ date?.pad 2 hour ++ ":" ++ date?.pad 2 minute

/-- A date, a time of day, or both. -/
def time? (word : List Char) : Option Setting :=
  match date? word with
  | some (date, []) => some (.text date)
  | some (date, mark :: rest) =>
    if ['T', 't', ' '].contains mark then do
      let (time, more) ← timeOfDay? rest
      return .text (date ++ "T" ++ time ++ (← offset? more))
    else none
  | none =>
    match timeOfDay? word with
    | some (time, []) => some (.text time)
    | _ => none

/-- The value of a word. -/
def scalar? (word : List Char) : Option Setting :=
  if word = "true".toList then some (.bool true)
  else if word = "false".toList then some (.bool false)
  else (integer? word).or ((time? word).or (if isWhole word then none else real? word))
where
  /-- Whether a word is spelled as an integer, in range or not. -/
  isWhole (word : List Char) : Bool :=
    (decimalDigits? (splitSign word).2).isSome

/-- Whether a character may stand in a word. -/
def isWordChar (c : Char) : Bool :=
  c.isAlphanum || c == '_' || c == '-' || c == '+' || c == '.' || c == ':'

/-- A word at the front. A date may be followed by a blank and a time of day. -/
def splitWord (cs : List Char) : List Char × List Char :=
  let word := cs.takeWhile isWordChar
  let rest := cs.dropWhile isWordChar
  match (date? word).map Prod.snd, rest with
  | some [], ' ' :: more =>
    if (timeOfDay? more).isSome then
      (word ++ ' ' :: more.takeWhile isWordChar, more.dropWhile isWordChar)
    else (word, rest)
  | _, _ => (word, rest)

end LedgerClient.Toml
