import Listing.Calendar.Date
import Listing.Json.Basic
import Listing.Number.Reading
import Listing.Text.Blank

/-!
# Scalars of a configuration

The texts, numbers, truth values and dates of a configuration file. Dates are only checked: no
setting is a date, so one is kept as an object with its text, which no setting accepts.
-/

namespace Listing.Toml

/-! ### Texts -/

/-- Whether a character may stand inside a text or a comment. -/
def isPlain (c : Char) : Bool := c = '\t' || (32 ≤ c.toNat && c.toNat ≠ 127)

/-- Whether a character is a blank inside a line. -/
def isGap (c : Char) : Bool := c = ' ' || c = '\t'

/-- The value of a hexadecimal digit. -/
def hexDigit? (c : Char) : Option Nat :=
  if c.isDigit then some (c.toNat - 48)
  else if 'a' ≤ c && c ≤ 'f' then some (c.toNat - 87)
  else if 'A' ≤ c && c ≤ 'F' then some (c.toNat - 55)
  else none

/-- The character whose code point is written with a number of hexadecimal digits. -/
def codePoint? (code : Nat) : Nat → List Char → Option (Char × List Char)
  | 0, rest => if h : code.isValidChar then some (Char.ofNatAux code h, rest) else none
  | _ + 1, [] => none
  | digits + 1, c :: rest => (hexDigit? c).bind fun d => codePoint? (code * 16 + d) digits rest

/-- The character that stands behind a backslash. -/
def escape? : List Char → Option (Char × List Char)
  | [] => none
  | c :: rest =>
    if c = '"' || c = '\\' then some (c, rest)
    else if c = 'b' then some (Char.ofNat 8, rest)
    else if c = 't' then some ('\t', rest)
    else if c = 'n' then some ('\n', rest)
    else if c = 'f' then some (Char.ofNat 12, rest)
    else if c = 'r' then some ('\r', rest)
    else if c = 'u' then codePoint? 0 4 rest
    else if c = 'U' then codePoint? 0 8 rest
    else none

/-- A text in one line behind its quote, where `read` holds the characters so far, last one first.
Every step takes a character, so a unit of `fuel` for each is enough. -/
def lineText? (read : List Char) : Nat → List Char → Option (List Char × List Char)
  | 0, _ => none
  | _ + 1, [] => none
  | _ + 1, '"' :: rest => some (read.reverse, rest)
  | fuel + 1, '\\' :: rest =>
    match escape? rest with
    | some (c, rest) => lineText? (c :: read) fuel rest
    | none => none
  | fuel + 1, c :: rest => if isPlain c then lineText? (c :: read) fuel rest else none

/-- A text in one line that has no escapes, behind its quote. -/
def rawLineText? (cs : List Char) : Option (List Char × List Char) :=
  let body := cs.takeWhile (· ≠ '\'')
  match cs.dropWhile (· ≠ '\'') with
  | [] => none
  | _ :: rest => if body.all isPlain then some (body, rest) else none

/-- The line end that a text starts with. -/
def lineEnd? : List Char → Option (List Char)
  | '\n' :: rest => some rest
  | '\r' :: '\n' :: rest => some rest
  | _ => none

/-- A text without the blanks and line ends in front. -/
def skipFold : List Char → List Char
  | [] => []
  | [c] => if isGap c || c = '\n' then [] else [c]
  | c :: d :: rest =>
    if isGap c || c = '\n' || c = '\r' && d = '\n' then skipFold (d :: rest) else c :: d :: rest

/-- A text without the blanks and line ends in front, of which one must be a line end. -/
def foldedLine? (cs : List Char) : Option (List Char) :=
  (lineEnd? (cs.dropWhile isGap)).map skipFold

/-- How many quotes a text starts with. -/
def quotes (quote : Char) (cs : List Char) : Nat := (cs.takeWhile (· = quote)).length

/-- A text over several lines behind its three quotes. Three quotes end it; up to two more in front
of them belong to it. -/
def blockText? (quote : Char) (escapes : Bool) (read : List Char) :
    Nat → List Char → Option (List Char × List Char)
  | 0, _ => none
  | _ + 1, [] => none
  | fuel + 1, c :: rest =>
    if c = quote then
      let count := quotes quote (c :: rest)
      if 5 < count then none
      else if 3 ≤ count then
        some (read.reverse ++ List.replicate (count - 3) quote, (c :: rest).drop count)
      else blockText? quote escapes (c :: read) fuel rest
    else if c = '\\' && escapes then
      match foldedLine? rest with
      | some rest => blockText? quote escapes read fuel rest
      | none =>
        match escape? rest with
        | some (e, rest) => blockText? quote escapes (e :: read) fuel rest
        | none => none
    else
      match lineEnd? (c :: rest) with
      | some rest => blockText? quote escapes ('\n' :: read) fuel rest
      | none => if isPlain c then blockText? quote escapes (c :: read) fuel rest else none

/-- A text over several lines behind its three quotes; a line end behind them does not count. -/
def block? (quote : Char) (escapes : Bool) (cs : List Char) : Option (List Char × List Char) :=
  let body := (lineEnd? cs).getD cs
  blockText? quote escapes [] (body.length + 1) body

/-- A text with its quotes. -/
def text? : List Char → Option (List Char × List Char)
  | '"' :: '"' :: '"' :: rest => block? '"' true rest
  | '\'' :: '\'' :: '\'' :: rest => block? '\'' false rest
  | '"' :: rest => lineText? [] (rest.length + 1) rest
  | '\'' :: rest => rawLineText? rest
  | _ => none

/-- A date, as an object with one member. -/
def dateJson (cs : List Char) : Json := .object [("moment", .string (String.ofList cs))]

/-! ### Numbers -/

/-- Digits with single underscores between them, without the underscores. -/
def grouped? (isDigit : Char → Bool) (cs : List Char) : Option (List Char) :=
  let groups := List.splitOn '_' cs
  if groups.all fun g => !g.isEmpty && g.all isDigit then some groups.flatten else none

/-- A sign and what follows it. -/
def sign (cs : List Char) : Bool × List Char :=
  match cs with
  | '+' :: rest => (false, rest)
  | '-' :: rest => (true, rest)
  | _ => (false, cs)

/-- The digits of a decimal number without needless zeros in front. -/
def decimalDigits? (cs : List Char) : Option (List Char) :=
  (grouped? Char.isDigit cs).filter fun ds => ds.length = 1 || ds.head? ≠ some '0'

/-- An integer of 64 bits. -/
def bounded? (n : Int) : Option Json :=
  if -(Number.signedBound : Int) ≤ n && n < Number.signedBound then some (.integer n) else none

/-- An integer with another base. -/
def withBase? (base : Nat) (cs : List Char) : Option Json :=
  let isDigit := fun c => (hexDigit? c).any (· < base)
  (grouped? isDigit cs).bind fun ds =>
    bounded? (ds.foldl (fun n c => n * base + (hexDigit? c).getD 0) 0 : Nat)

/-- An integer. -/
def integer? (cs : List Char) : Option Json :=
  match cs with
  | '0' :: 'x' :: rest => withBase? 16 rest
  | '0' :: 'o' :: rest => withBase? 8 rest
  | '0' :: 'b' :: rest => withBase? 2 rest
  | _ =>
    let (negative, digits) := sign cs
    ((decimalDigits? digits).bind Number.decimal?).bind fun n =>
      bounded? (if negative then -(n : Int) else n)

/-- A floating-point number: a word for one that is not finite, or a decimal number with a fraction,
a power of ten or both, unless it is too large. -/
def float? (cs : List Char) : Option Json := do
  let (negative, body) := sign cs
  if body = "inf".toList then return .float (.infinity negative)
  if body = "nan".toList then return .float .notANumber
  let mantissa := body.takeWhile fun c => c ≠ 'e' && c ≠ 'E'
  let whole ← decimalDigits? (mantissa.takeWhile (· ≠ '.'))
  let fraction ←
    match mantissa.dropWhile (· ≠ '.') with
    | [] => some []
    | _ :: ds => (grouped? Char.isDigit ds).map ('.' :: ·)
  let power ←
    match body.drop mantissa.length with
    | [] => some []
    | _ :: exponent =>
      let (down, ds) := sign exponent
      (grouped? Char.isDigit ds).map fun ds => 'e' :: (if down then '-' :: ds else ds)
  if fraction.isEmpty && power.isEmpty then none
  let x ← Number.magnitude? negative (whole ++ fraction ++ power)
  if x = .infinity false then none else return .float x

/-! ### Dates -/

/-- The number that two digits denote. -/
def twoDigits? : List Char → Option (Nat × List Char)
  | a :: b :: rest =>
    if a.isDigit && b.isDigit then some ((a.toNat - 48) * 10 + (b.toNat - 48), rest) else none
  | _ => none

/-- What follows one fixed character. -/
def after? (c : Char) : List Char → Option (List Char)
  | d :: rest => if c = d then some rest else none
  | [] => none

/-- What follows a date. -/
def afterDate? (cs : List Char) : Option (List Char) := do
  let (high, rest) ← twoDigits? cs
  let (low, rest) ← twoDigits? rest
  let (month, rest) ← twoDigits? (← after? '-' rest)
  let (day, rest) ← twoDigits? (← after? '-' rest)
  if (Calendar.Date.mk (high * 100 + low : Nat) month day).isValid then some rest else none

/-- What follows a time of day. -/
def afterTime? (cs : List Char) : Option (List Char) := do
  let (hour, rest) ← twoDigits? cs
  let (minute, rest) ← twoDigits? (← after? ':' rest)
  let (second, rest) ← twoDigits? (← after? ':' rest)
  if 23 < hour || 59 < minute || 60 < second then none
  match rest with
  | '.' :: ds =>
    if (ds.head?.map Char.isDigit).getD false then some (ds.dropWhile Char.isDigit) else none
  | _ => some rest

/-- Whether a text is nothing or an offset. -/
def isOffset : List Char → Bool
  | [] => true
  | ['Z'] | ['z'] => true
  | c :: rest =>
    (c = '+' || c = '-') &&
      (match twoDigits? rest with
      | some (hours, ':' :: rest) =>
        match twoDigits? rest with
        | some (minutes, []) => hours ≤ 23 && minutes ≤ 59
        | _ => false
      | _ => false)

/-- Whether a text is a date, a time of day, or both. -/
def isDate (cs : List Char) : Bool :=
  match afterDate? cs with
  | some [] => true
  | some (c :: rest) =>
    (c = 'T' || c = 't' || c = ' ') && ((afterTime? rest).map isOffset).getD false
  | none => afterTime? cs = some []

/-! ### Words -/

/-- Whether a character may stand in a number, a truth value or a date. -/
def isWordChar (c : Char) : Bool :=
  c.isAlphanum || c = '+' || c = '-' || c = '_' || c = '.' || c = ':'

/-- A number, a truth value or a date. -/
def word? (cs : List Char) : Option Json :=
  if cs = "true".toList then some (.bool true)
  else if cs = "false".toList then some (.bool false)
  else if isDate cs then some (dateJson cs)
  else
    match integer? cs with
    | some j => some j
    | none => float? cs

/-- A number, a truth value or a date and what follows it. One blank may stand between a date and
a time. -/
def scalar? (cs : List Char) : Option (Json × List Char) :=
  let first := cs.takeWhile isWordChar
  let rest := cs.drop first.length
  match rest with
  | ' ' :: c :: more =>
    if afterDate? first = some [] && c.isDigit then
      let second := (c :: more).takeWhile isWordChar
      (word? (first ++ ' ' :: second)).map fun j => (j, (c :: more).drop second.length)
    else (word? first).map fun j => (j, rest)
  | _ => (word? first).map fun j => (j, rest)

end Listing.Toml
