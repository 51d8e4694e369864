import Listing.Number.Shortest

/-!
# Documents

A `Json` value is a document as it is exchanged with a back end or a client. Integers and
floating-point numbers are told apart, so `3` and `3.0` are different documents. The members of
an object are kept in the order of their keys, each key once; `Members.insert` keeps that order
and `Members.get?_insert` says what it stores.

## Main definitions

* `Json`, `Members`: documents and the contents of objects
* `Json.text`: the compact text of a document
* `Json.indented`: the same over several lines
-/

namespace Listing

open Number (Binary64)

/-- A document. -/
inductive Json where
  /-- The absent value. -/
  | null
  /-- A truth value. -/
  | bool (value : Bool)
  /-- A number that is written without a fraction and without an exponent. -/
  | integer (value : Int)
  /-- A floating-point number; in what is written it is finite. -/
  | float (value : Binary64)
  /-- A text. -/
  | string (value : String)
  /-- A list of documents. -/
  | array (items : List Json)
  /-- Named documents, in the order of the names. -/
  | object (members : List (String × Json))
deriving Repr, Inhabited, BEq

/-- The contents of an object: documents under distinct names, in the order of the names. -/
abbrev Members := List (String × Json)

namespace Members

/-- The document under a name. -/
def get? (name : String) : Members → Option Json
  | [] => none
  | (k, v) :: rest => if k = name then some v else get? name rest

/-- Stores a document under a name, in place of one that is there. -/
def insert (name : String) (value : Json) : Members → Members
  | [] => [(name, value)]
  | (k, v) :: rest =>
    if name < k then (name, value) :: (k, v) :: rest
    else if name = k then (name, value) :: rest
    else (k, v) :: insert name value rest

/-- The members of a list of pairs; the last pair of a name counts. -/
def ofPairs (pairs : List (String × Json)) : Members :=
  pairs.foldl (fun members pair => Members.insert pair.1 pair.2 members) []

/-- After storing, the name has the new document and all other names what they had. -/
theorem get?_insert (members : Members) (name other : String) (value : Json) :
    (members.insert name value).get? other =
      if name = other then some value else members.get? other := by
  induction members with
  | nil => simp [insert, get?]
  | cons m rest ih =>
    obtain ⟨k, v⟩ := m
    simp only [insert]
    split
    · simp [get?]
    · split
      · next h => subst h; by_cases h' : name = other <;> simp [get?, h']
      · next h =>
        by_cases h' : k = other
        · subst h'; simp [get?, h]
        · simp [get?, h', ih]

end Members

namespace Json

/-- A floating-point number as a document: what is not finite becomes `null`. -/
def ofBinary64 (x : Binary64) : Json := if x.isFinite then float x else null

/-- An object of the given pairs; the last pair of a name counts. -/
def ofPairs (pairs : List (String × Json)) : Json := object (Members.ofPairs pairs)

/-- The text of a document that is a text. -/
def string? : Json → Option String
  | string s => some s
  | _ => none

/-- The items of a document that is a list. -/
def array? : Json → Option (List Json)
  | array items => some items
  | _ => none

/-- The members of a document that is an object. -/
def object? : Json → Option Members
  | object members => some members
  | _ => none

/-- The truth value of a document that is one. -/
def bool? : Json → Option Bool
  | bool b => some b
  | _ => none

/-- The value of a document that is an integer. -/
def integer? : Json → Option Int
  | integer n => some n
  | _ => none

/-- Whether the document is the absent value. -/
def isNull : Json → Bool
  | null => true
  | _ => false

/-- The document under a name of an object. -/
def member? (name : String) : Json → Option Json
  | object members => Members.get? name members
  | _ => none

/-- The document under a name of an object, unless it is the absent value. -/
def present? (name : String) (j : Json) : Option Json := (j.member? name).filter (!·.isNull)

/-- The number of a document that is a number, rounded if it is a large integer. -/
def binary64? : Json → Option Binary64
  | integer n => some (Binary64.ofInt n)
  | float x => some x
  | _ => none

/-! ### Texts -/

/-- The hexadecimal digit of a value below sixteen. -/
def hexDigit (n : Nat) : Char := if n < 10 then Char.ofNat (48 + n) else Char.ofNat (87 + n)

/-- A character as it is written inside a text: quotes, backslashes and control characters are
escaped. -/
def escapeChar (c : Char) : List Char :=
  if c = '"' then ['\\', '"']
  else if c = '\\' then ['\\', '\\']
  else if c.toNat = 8 then ['\\', 'b']
  else if c.toNat = 9 then ['\\', 't']
  else if c.toNat = 10 then ['\\', 'n']
  else if c.toNat = 12 then ['\\', 'f']
  else if c.toNat = 13 then ['\\', 'r']
  else if c.toNat < 32 then ['\\', 'u', '0', '0', hexDigit (c.toNat / 16), hexDigit (c.toNat % 16)]
  else [c]

/-- A text in quotes. -/
def quote (s : String) : String :=
  String.ofList ('"' :: s.toList.flatMap escapeChar ++ ['"'])

mutual

/-- The compact text of a document. -/
def text : Json → String
  | null => "null"
  | bool b => if b then "true" else "false"
  | integer n => toString n
  | float x => x.documentText
  | string s => quote s
  | array items => "[" ++ ",".intercalate (itemTexts items) ++ "]"
  | object members => "\x7b" ++ ",".intercalate (memberTexts members) ++ "\x7d"

/-- The compact texts of the items of a list. -/
def itemTexts : List Json → List String
  | [] => []
  | j :: rest => text j :: itemTexts rest

/-- The compact texts of the members of an object. -/
def memberTexts : List (String × Json) → List String
  | [] => []
  | (k, j) :: rest => (quote k ++ ":" ++ text j) :: memberTexts rest

end

/-- A new line with the indentation of a depth. -/
def lineBreak (depth : Nat) : String := "\n" ++ String.ofList (List.replicate (2 * depth) ' ')

mutual

/-- The text of a document over several lines, two blanks deeper at each level. -/
def indented (depth : Nat) : Json → String
  | array [] => "[]"
  | object [] => "\x7b\x7d"
  | array (j :: rest) =>
    let lines := indented (depth + 1) j :: indentedItems (depth + 1) rest
    "[" ++ lineBreak (depth + 1) ++ ("," ++ lineBreak (depth + 1)).intercalate lines ++
      lineBreak depth ++ "]"
  | object ((k, j) :: rest) =>
    let lines := (quote k ++ ": " ++ indented (depth + 1) j) :: indentedMembers (depth + 1) rest
    "\x7b" ++ lineBreak (depth + 1) ++ ("," ++ lineBreak (depth + 1)).intercalate lines ++
      lineBreak depth ++ "\x7d"
  | j => text j

/-- The texts of the items of a list at a depth. -/
def indentedItems (depth : Nat) : List Json → List String
  | [] => []
  | j :: rest => indented depth j :: indentedItems depth rest

/-- The texts of the members of an object at a depth. -/
def indentedMembers (depth : Nat) : List (String × Json) → List String
  | [] => []
  | (k, j) :: rest => (quote k ++ ": " ++ indented depth j) :: indentedMembers depth rest

end

end Json

end Listing
