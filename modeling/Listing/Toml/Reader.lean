import Listing.Toml.Scalar
import Listing.Toml.Table

/-!
# Reading configuration files

`Toml.read?` reads a configuration file: lines with a key and a value, below headers that say which
table they belong to. The answer is one document, with a member for each key.
-/

namespace Listing.Toml

/-- How deep lists and tables inside a value may be nested, and how long a key may be. -/
def depthLimit : Nat := 80

/-! ### Keys -/

/-- Whether a character may stand in a key without quotes. -/
def isBare (c : Char) : Bool := c.isAlphanum || c = '_' || c = '-'

/-- One part of a key. -/
def keyPart? (cs : List Char) : Option (String × List Char) :=
  match cs with
  | '"' :: rest => (lineText? [] (rest.length + 1) rest).map fun (s, tail) => (.ofList s, tail)
  | '\'' :: rest => (rawLineText? rest).map fun (s, tail) => (.ofList s, tail)
  | _ =>
    let bare := cs.takeWhile isBare
    if bare.isEmpty then none else some (.ofList bare, cs.drop bare.length)

/-- The parts of a key between dots; every part takes a character of the text, so a unit of `fuel`
for each is enough. -/
def keyFrom (parts : List String) : Nat → List Char → Option (List String × List Char)
  | 0, _ => none
  | fuel + 1, cs =>
    match keyPart? (cs.dropWhile isGap) with
    | none => none
    | some (part, rest) =>
      match rest.dropWhile isGap with
      | '.' :: tail => keyFrom (part :: parts) fuel tail
      | tail =>
        if parts.length + 1 < depthLimit then some ((part :: parts).reverse, tail) else none

/-- A key. -/
def key? (cs : List Char) : Option (List String × List Char) := keyFrom [] (cs.length + 1) cs

/-! ### Values -/

/-- What follows a comment, if its characters may stand in one. -/
def skipComment? : List Char → Option (List Char)
  | '#' :: rest =>
    let tail := rest.dropWhile fun c => c ≠ '\n' && c ≠ '\r'
    if (rest.take (rest.length - tail.length)).all isPlain then some tail else none
  | cs => some cs

/-- What follows blanks, comments and line ends. -/
def skipLines? : Nat → List Char → Option (List Char)
  | 0, cs => some cs
  | fuel + 1, cs =>
    match skipComment? (cs.dropWhile isGap) with
    | none => none
    | some rest =>
      match lineEnd? rest with
      | some tail => skipLines? fuel tail
      | none => some rest

/-- What follows blanks, comments and line ends, however many there are. -/
def skipAll? (cs : List Char) : Option (List Char) := skipLines? (cs.length + 1) cs

mutual

/-- A value, inside which `levels` more lists and tables may be opened. Every call takes a unit of
`fuel`; two for each character are enough. -/
def value? (levels : Nat) : Nat → List Char → Option (Json × List Char)
  | 0, _ => none
  | fuel + 1, cs =>
    match cs with
    | '[' :: rest =>
      match levels with
      | 0 => none
      | levels + 1 => items? levels [] fuel rest
    | '\x7b' :: rest =>
      match levels with
      | 0 => none
      | levels + 1 =>
        match rest.dropWhile isGap with
        | '\x7d' :: tail => some (.object [], tail)
        | body => members? levels [] fuel body
    | '"' :: _ => (text? cs).map fun (s, tail) => (.string (.ofList s), tail)
    | '\'' :: _ => (text? cs).map fun (s, tail) => (.string (.ofList s), tail)
    | _ => scalar? cs

/-- The rest of a list, where `read` holds its items so far, last one first. -/
def items? (levels : Nat) (read : List Json) : Nat → List Char → Option (Json × List Char)
  | 0, _ => none
  | fuel + 1, cs =>
    match skipAll? cs with
    | none => none
    | some (']' :: tail) => some (.array read.reverse, tail)
    | some body =>
      match value? levels fuel body with
      | none => none
      | some (j, rest) =>
        match skipAll? rest with
        | some (',' :: tail) => items? levels (j :: read) fuel tail
        | some (']' :: tail) => some (.array (j :: read).reverse, tail)
        | _ => none

/-- The rest of a table inside a value that has at least one more key. -/
def members? (levels : Nat) (read : Entries) : Nat → List Char → Option (Json × List Char)
  | 0, _ => none
  | fuel + 1, cs =>
    match key? cs with
    | some (path, '=' :: rest) =>
      match value? levels fuel (rest.dropWhile isGap) with
      | none => none
      | some (j, rest) =>
        match addValue path j .header read with
        | none => none
        | some (_, read) =>
          match rest.dropWhile isGap with
          | ',' :: tail => members? levels read fuel tail
          | '\x7d' :: tail => some (.ofPairs (entriesJson read), tail)
          | _ => none
    | _ => none

end

/-! ### Files -/

/-- The file as far as it has been read: all tables, and the path of the one being filled. -/
structure State where
  /-- The contents of the file. -/
  root : Entries
  /-- The path of the table that keys belong to. -/
  current : List String

/-- The state after a change of the file. -/
def State.apply (s : State) (path : List String) (f : Change) : Option State :=
  (f .header s.root).map fun (_, root) => ⟨root, path⟩

/-- A header of a list of tables behind its brackets. -/
def tablesHeader? (s : State) (cs : List Char) : Option (State × List Char) :=
  match key? cs with
  | some (path, ']' :: ']' :: rest) => (s.apply path (addToTables path)).map fun s => (s, rest)
  | _ => none

/-- A header of a table behind its bracket. -/
def tableHeader? (s : State) (cs : List Char) : Option (State × List Char) :=
  match key? cs with
  | some (path, ']' :: rest) => (s.apply path (addTable path)).map fun s => (s, rest)
  | _ => none

/-- A key and its value. -/
def pair? (s : State) (cs : List Char) : Option (State × List Char) :=
  match key? cs with
  | some (path, '=' :: rest) =>
    match value? (depthLimit - 1) (2 * rest.length + 2) (rest.dropWhile isGap) with
    | some (j, tail) =>
      (s.apply s.current (change false (addValue path j) s.current)).map fun s => (s, tail)
    | none => none
  | _ => none

/-- What a line says, after the blanks in front. -/
def expression? (s : State) (cs : List Char) : Option (State × List Char) :=
  match cs with
  | [] => some (s, [])
  | '#' :: _ => some (s, cs)
  | '\n' :: _ => some (s, cs)
  | '\r' :: _ => some (s, cs)
  | '[' :: '[' :: rest => tablesHeader? s rest
  | '[' :: rest => tableHeader? s rest
  | _ => pair? s cs

/-- The lines of a file; every line takes a character of the text, so a unit of `fuel` for each is
enough. -/
def linesFrom (s : State) : Nat → List Char → Option State
  | 0, _ => none
  | fuel + 1, cs =>
    match expression? s (cs.dropWhile isGap) with
    | none => none
    | some (s, rest) =>
      match skipComment? (rest.dropWhile isGap) with
      | none => none
      | some [] => some s
      | some tail =>
        match lineEnd? tail with
        | some next => linesFrom s fuel next
        | none => none

/-- The document that a file consists of. -/
def read? (text : String) : Option Json :=
  let cs := text.toList
  let body := if cs.head? = some (Char.ofNat 0xFEFF) then cs.drop 1 else cs
  (linesFrom ⟨[], []⟩ (body.length + 1) body).map fun s => .ofPairs (entriesJson s.root)

end Listing.Toml
