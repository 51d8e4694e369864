import Listing.Json.Basic
import Listing.Number.Integer

/-!
# Reading documents

`Json.read?` reads the text of a document. Blanks may stand around every token, nothing may follow
the document, an object keeps the last document of a name, and at most `Json.depthLimit - 1` lists
and objects may be open at a time.

A number without a fraction and an exponent is an integer if it fits into 64 bits, signed if it is
negative and unsigned otherwise; all other numbers are floating-point numbers. Of these at most
the digits that fit into 64 bits count, and the power of ten is applied to the rounded digits by
one more rounded operation, so the last bit may differ from that of the nearest number.
-/

namespace Listing.Json

open Number (Binary64)

/-- The number of open lists and objects that is refused. -/
def depthLimit : Nat := 128

/-- The blanks between tokens. -/
def isGap (c : Char) : Bool := c = ' ' || c = '\n' || c = '\t' || c = '\r'

/-- A text without the blanks in front. -/
def skipGap (cs : List Char) : List Char := cs.dropWhile isGap

/-! ### Numbers -/

/-- The value of the leading digits as far as it fits into 64 bits, how many digits were taken and
what follows them. -/
def takeDigits (value taken : Nat) : List Char → Nat × Nat × List Char
  | [] => (value, taken, [])
  | c :: cs =>
    let next := value * 10 + (c.toNat - 48)
    if c.isDigit && next < Number.countBound then takeDigits next (taken + 1) cs
    else (value, taken, c :: cs)

/-- The power `10 ^ n` as a floating-point number. -/
def powerOfTen (n : Nat) : Binary64 := Binary64.ofDecimal false 1 n

/-- A number divided by a power of ten, `1e308` at a time. -/
def dividedBy (x : Binary64) (exponent : Nat) : Binary64 :=
  if exponent ≤ 308 then x.div (powerOfTen exponent)
  else if x.isZero then x
  else dividedBy (x.div (powerOfTen 308)) (exponent - 308)
termination_by exponent

/-- The number `significand * 10 ^ exponent`, if it is finite. -/
def scaled? (significand : Nat) (exponent : Int) : Option Binary64 :=
  let x := Binary64.ofInt significand
  if exponent < 0 then some (dividedBy x exponent.natAbs)
  else if x.isZero then some x
  else if 308 < exponent then none
  else
    let product := x.mul (powerOfTen exponent.toNat)
    if product.isFinite then some product else none

/-- The sign of a number. -/
def withSign (negative : Bool) (x : Binary64) : Binary64 :=
  if negative then Binary64.ofParts true x.bits.toNat else x

/-- The power of ten at the end of a number whose digits have been read. -/
def readExponent? (significand : Nat) (exponent : Int) (cs : List Char) :
    Option (Binary64 × List Char) :=
  let (down, digits) :=
    match cs with
    | '+' :: rest => (false, rest)
    | '-' :: rest => (true, rest)
    | _ => (false, cs)
  let written := digits.takeWhile Char.isDigit
  let rest := digits.dropWhile Char.isDigit
  if written.isEmpty then none
  else
    let power : Int := written.foldl (fun n c => n * 10 + (c.toNat - 48)) 0
    let total := if down then exponent - power else exponent + power
    let value? :=
      if Nat.pow 2 31 ≤ power && (down || significand = 0) then some (Binary64.zero false)
      else scaled? significand total
    value?.map fun x => (x, rest)

/-- The end of a floating-point number whose digits have been read. -/
def readScale? (significand : Nat) (exponent : Int) : List Char → Option (Binary64 × List Char)
  | [] => (scaled? significand exponent).map fun x => (x, [])
  | c :: rest =>
    if c = 'e' || c = 'E' then readExponent? significand exponent rest
    else (scaled? significand exponent).map fun x => (x, c :: rest)

/-- The fraction of a number, whose decimal point has been read. -/
def readFraction? (significand : Nat) (exponent : Int) (cs : List Char) :
    Option (Binary64 × List Char) :=
  let (value, taken, rest) := takeDigits significand 0 cs
  let tail := rest.dropWhile Char.isDigit
  if taken = 0 && tail.length = rest.length then none
  else readScale? value (exponent - taken) tail

/-- A number after its sign. -/
def readMagnitude? (negative : Bool) (cs : List Char) : Option (Json × List Char) :=
  let asFloat := fun (r : Option (Binary64 × List Char)) =>
    r.map fun (x, rest) => (float (withSign negative x), rest)
  let finish := fun (significand : Nat) (long : Bool) (exponent : Int) (rest : List Char) =>
    match rest with
    | '.' :: more => asFloat (readFraction? significand exponent more)
    | 'e' :: more => asFloat (readExponent? significand exponent more)
    | 'E' :: more => asFloat (readExponent? significand exponent more)
    | _ =>
      if long then asFloat (readScale? significand exponent rest)
      else if !negative then some (integer significand, rest)
      else if significand = 0 || Nat.pow 2 63 < significand then
        some (float (withSign true (Binary64.ofInt significand)), rest)
      else some (integer (-significand), rest)
  match cs with
  | '0' :: rest =>
    match rest with
    | c :: _ => if c.isDigit then none else finish 0 false 0 rest
    | [] => finish 0 false 0 rest
  | _ =>
    let (value, taken, rest) := takeDigits 0 0 cs
    if taken = 0 then none
    else
      let dropped := rest.takeWhile Char.isDigit
      finish value (!dropped.isEmpty) dropped.length (rest.drop dropped.length)

/-! ### Texts -/

/-- The value of a hexadecimal digit. -/
def hexValue? (c : Char) : Option Nat :=
  if c.isDigit then some (c.toNat - 48)
  else if 'a' ≤ c && c ≤ 'f' then some (c.toNat - 87)
  else if 'A' ≤ c && c ≤ 'F' then some (c.toNat - 55)
  else none

/-- The value of four hexadecimal digits. -/
def hexWord? (a b c d : Char) : Option Nat :=
  match hexValue? a, hexValue? b, hexValue? c, hexValue? d with
  | some a, some b, some c, some d => some (((a * 16 + b) * 16 + c) * 16 + d)
  | _, _, _, _ => none

/-- The character that a letter after a backslash stands for. -/
def escaped? (c : Char) : Option Char :=
  if c = '"' || c = '\\' || c = '/' then some c
  else if c = 'b' then some (Char.ofNat 8)
  else if c = 'f' then some (Char.ofNat 12)
  else if c = 'n' then some '\n'
  else if c = 'r' then some '\r'
  else if c = 't' then some '\t'
  else none

/-- A text after its first quote, where `read` holds the characters so far, last one first. -/
def readText? (read : List Char) : List Char → Option (String × List Char)
  | [] => none
  | '"' :: rest => some (String.ofList read.reverse, rest)
  | '\\' :: 'u' :: a :: b :: c :: d :: rest =>
    match hexWord? a b c d with
    | none => none
    | some high =>
      if 0xD800 ≤ high && high < 0xDC00 then
        match rest with
        | '\\' :: 'u' :: e :: f :: g :: h :: more =>
          match hexWord? e f g h with
          | none => none
          | some low =>
            if 0xDC00 ≤ low && low < 0xE000 then
              readText? (Char.ofNat (0x10000 + (high - 0xD800) * 0x400 + (low - 0xDC00)) :: read)
                more
            else none
        | _ => none
      else if 0xDC00 ≤ high && high < 0xE000 then none
      else readText? (Char.ofNat high :: read) rest
  | '\\' :: c :: rest =>
    match escaped? c with
    | some e => readText? (e :: read) rest
    | none => none
  | c :: rest => if c.toNat < 32 then none else readText? (c :: read) rest

/-! ### Documents -/

/-- Drops a word from the front of a text. -/
def dropWord? : List Char → List Char → Option (List Char)
  | [], cs => some cs
  | w :: ws, c :: cs => if w = c then dropWord? ws cs else none
  | _ :: _, [] => none

mutual

/-- A document, where `levels` more lists and objects may be opened. Every call takes one unit of
`fuel`, of which there is more than enough: two for each character. -/
def readValue? (levels : Nat) : Nat → List Char → Option (Json × List Char)
  | 0, _ => none
  | fuel + 1, cs =>
    match skipGap cs with
    | [] => none
    | '"' :: rest => (readText? [] rest).map fun (s, tail) => (string s, tail)
    | '[' :: rest =>
      match levels with
      | 0 => none
      | levels + 1 =>
        match skipGap rest with
        | ']' :: tail => some (array [], tail)
        | _ => readItems? levels [] fuel rest
    | '\x7b' :: rest =>
      match levels with
      | 0 => none
      | levels + 1 =>
        match skipGap rest with
        | '\x7d' :: tail => some (object [], tail)
        | _ => readMembers? levels [] fuel rest
    | 'n' :: rest => (dropWord? ['u', 'l', 'l'] rest).map fun tail => (null, tail)
    | 't' :: rest => (dropWord? ['r', 'u', 'e'] rest).map fun tail => (bool true, tail)
    | 'f' :: rest => (dropWord? ['a', 'l', 's', 'e'] rest).map fun tail => (bool false, tail)
    | '-' :: rest => readMagnitude? true rest
    | c :: rest => readMagnitude? false (c :: rest)

/-- The items of a list that has at least one more, where `read` holds the items so far. -/
def readItems? (levels : Nat) (read : List Json) : Nat → List Char → Option (Json × List Char)
  | 0, _ => none
  | fuel + 1, cs =>
    match readValue? levels fuel cs with
    | none => none
    | some (item, rest) =>
      match skipGap rest with
      | ',' :: tail => readItems? levels (item :: read) fuel tail
      | ']' :: tail => some (array (item :: read).reverse, tail)
      | _ => none

/-- The members of an object that has at least one more, where `read` holds the members so far. -/
def readMembers? (levels : Nat) (read : Members) : Nat → List Char → Option (Json × List Char)
  | 0, _ => none
  | fuel + 1, cs =>
    match skipGap cs with
    | '"' :: rest =>
      match readText? [] rest with
      | none => none
      | some (name, rest) =>
        match skipGap rest with
        | ':' :: rest =>
          match readValue? levels fuel rest with
          | none => none
          | some (value, rest) =>
            match skipGap rest with
            | ',' :: tail => readMembers? levels (Members.insert name value read) fuel tail
            | '\x7d' :: tail => some (object (Members.insert name value read), tail)
            | _ => none
        | _ => none
    | _ => none

end

/-- The document that a text consists of. -/
def read? (s : String) : Option Json :=
  let cs := s.toList
  match readValue? (depthLimit - 1) (2 * cs.length + 2) cs with
  | some (j, rest) => if (skipGap rest).isEmpty then some j else none
  | none => none

end Listing.Json
