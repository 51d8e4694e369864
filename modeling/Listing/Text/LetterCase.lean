import Listing.Unicode.Casing
import Listing.Unicode.Property

/-!
# Upper and lower case

`isUppercase` and `isLowercase` are the Unicode properties of those names, `lowerChar` the lower
case form of one character and `lower` that of a whole text, in which a capital sigma at the end
of a word becomes a final sigma. `lowerAscii` and `equalAscii` change and compare the twenty-six
ASCII letters only.

The same thing is called `AffiliateName` in a query, `affiliate_name` in a table and
`affiliateName` in a search document. `snakeCase` and `camelCase` are the two derived forms.
-/

namespace Listing.Text

/-- The Unicode property `Uppercase`. -/
def isUppercase (c : Char) : Bool :=
  if c.toNat < 0x80 then c.isUpper else Unicode.uppercase.contains c.toNat

/-- The Unicode property `Lowercase`. -/
def isLowercase (c : Char) : Bool :=
  if c.toNat < 0x80 then c.isLower else Unicode.lowercase.contains c.toNat

/-- The Unicode property `Cased`. -/
def isCased (c : Char) : Bool :=
  if c.toNat < 0x80 then c.isAlpha else Unicode.cased.contains c.toNat

/-- The Unicode property `Case_Ignorable`. -/
def isCaseIgnorable (c : Char) : Bool := Unicode.caseIgnorable.contains c.toNat

/-- The lower case form of one character. It is one character for all but the capital I with a
dot above, whose form is a small i followed by a combining dot. -/
def lowerChar (c : Char) : List Char :=
  if c.toNat < 0x80 then [c.toLower]
  else if c.toNat = 0x130 then ['i', Char.ofNat 0x307]
  else
    match Unicode.smallForm? c.toNat with
    | some n => [Char.ofNat n]
    | none => [c]

/-- Whether the text, read away from a letter, reaches a cased character after nothing but case
ignorable ones. -/
def meetsCased : List Char → Bool
  | [] => false
  | c :: cs => if isCaseIgnorable c then meetsCased cs else isCased c

/-- Lower case of `cs`, where `before` holds the characters already passed, nearest first. -/
def lowerFrom (before : List Char) : List Char → List Char
  | [] => []
  | c :: cs =>
    let form :=
      if c.toNat = 0x3A3 then
        if meetsCased before && !meetsCased cs then [Char.ofNat 0x3C2] else [Char.ofNat 0x3C3]
      else lowerChar c
    form ++ lowerFrom (c :: before) cs

/-- The lower case form of a text. -/
def lower (cs : List Char) : List Char := lowerFrom [] cs

/-- The lower case form of the ASCII letters of a text; all else stays. -/
def lowerAscii (cs : List Char) : List Char := cs.map Char.toLower

/-- Equality up to the case of ASCII letters. -/
def equalAscii (a b : List Char) : Bool := lowerAscii a == lowerAscii b

/-! ### Naming conventions -/

/-- The snake case form of `rest`, where `before` is the character in front of it and
`written` the text produced so far, last character first. A capital letter opens a new word
after a small letter or an ASCII digit, and before a small letter if it ends a run of capitals;
no second underscore is written after one that is already there. -/
def snakeFrom (before : Option Char) (written : List Char) : List Char → List Char
  | [] => written.reverse
  | c :: rest =>
    if isUppercase c then
      let opensWord :=
        match before with
        | none => false
        | some b =>
          isLowercase b || b.isDigit || (isUppercase b && (rest.head?.map isLowercase).getD false)
      let gap := if opensWord && written.head? != some '_' then ['_'] else []
      snakeFrom (some c) ((lowerChar c).reverse ++ gap ++ written) rest
    else snakeFrom (some c) (c :: written) rest

/-- The table spelling of a name: `AffiliateName` becomes `affiliate_name` and `ContactIP`
becomes `contact_ip`. -/
def snakeCase (name : String) : String := String.ofList (snakeFrom none [] name.toList)

/-- The document spelling of a name: its first character becomes a small letter. -/
def camelCase (name : String) : String :=
  match name.toList with
  | [] => ""
  | c :: rest => String.ofList (lowerChar c ++ rest)

end Listing.Text

namespace String

/-- The lower case form of a string. -/
def lowered (s : String) : String := ofList (Listing.Text.lower s.toList)

/-- Equality of strings up to the case of ASCII letters. -/
def equalsIgnoringCase (a b : String) : Bool := Listing.Text.equalAscii a.toList b.toList

end String
