import Listing.Text.Blank

/-!
# Certificates

`Certificate.split` takes the certificates out of a text: what stands from a line that opens one to
the next line that closes it, without the blanks around each line. A `Certificate.document` is such
a piece as a text of its own, and `Certificate.isValid` tells whether it is a certificate: base 64
digits between the two lines whose bytes are nested as the parts of a certificate are. What the
parts say is not looked at.
-/

namespace Listing.Settings.Certificate

/-! ### Splitting -/

/-- What opens a certificate. -/
def opening : List Char := "-----BEGIN CERTIFICATE-----".toList

/-- What closes a certificate. -/
def closing : List Char := "-----END CERTIFICATE-----".toList

/-- Whether a text stands somewhere in a line. -/
def occursIn (part : List Char) : List Char → Bool
  | [] => part.isEmpty
  | c :: cs => part.isPrefixOf (c :: cs) || occursIn part cs

/-- A line without the carriage return at its end. -/
def dropReturn (line : List Char) : List Char :=
  match line.getLast? with
  | some '\r' => line.dropLast
  | _ => line

/-- The lines of a text without their ends, a line break perhaps behind a carriage return. The last
line need not have an end. -/
def lines (cs : List Char) : List (List Char) :=
  let found := List.splitOn '\n' cs
  let ended := found.dropLast.map dropReturn
  match found.getLast? with
  | none | some [] => ended
  | some rest => ended ++ [rest]

/-- The certificates of some lines, where `current` are the lines of the certificate that is open,
last one first, if one is. A line that opens a certificate starts afresh, and one that closes a
certificate counts only if one is open. -/
def splitFrom (current : Option (List (List Char))) :
    List (List Char) → List (List (List Char))
  | [] => []
  | line :: rest =>
    if occursIn opening line then splitFrom (some [Text.trim line]) rest
    else if occursIn closing line then
      match current with
      | some before => (Text.trim line :: before).reverse :: splitFrom none rest
      | none => splitFrom none rest
    else splitFrom (current.map (Text.trim line :: ·)) rest

/-- The certificates of a text, each as its lines. -/
def split (text : String) : List (List (List Char)) := splitFrom none (lines text.toList)

/-- Lines as a text, each with its end. -/
def document (piece : List (List Char)) : String := String.ofList (piece.flatMap (· ++ ['\n']))

/-! ### Bytes -/

/-- The value of a base 64 digit. -/
def digit? (c : Char) : Option Nat :=
  if 'A' ≤ c && c ≤ 'Z' then some (c.toNat - 65)
  else if 'a' ≤ c && c ≤ 'z' then some (c.toNat - 71)
  else if c.isDigit then some (c.toNat + 4)
  else if c = '+' then some 62
  else if c = '/' then some 63
  else none

/-- The bytes of base 64 digits, four digits for three bytes; equal signs may fill the last four. -/
def bytes? : List Char → Option (List Nat)
  | [] => some []
  | [a, b, '=', '='] => do
    let n := (← digit? a) * 64 + (← digit? b)
    return [n / 16]
  | [a, b, c, '='] => do
    let n := ((← digit? a) * 64 + (← digit? b)) * 64 + (← digit? c)
    return [n / 1024, n / 4 % 256]
  | a :: b :: c :: d :: rest => do
    let n := (((← digit? a) * 64 + (← digit? b)) * 64 + (← digit? c)) * 64 + (← digit? d)
    return n / 65536 :: n / 256 % 256 :: n % 256 :: (← bytes? rest)
  | _ => none

/-! ### Nested parts -/

/-- A part: its tag and its contents. -/
structure Element where
  /-- What the part is. -/
  tag : Nat
  /-- The bytes of the part. -/
  contents : List Nat
deriving DecidableEq, Repr

/-- The length in front of the contents of a part: one byte, or a byte that says how many bytes the
length has. -/
def length? : List Nat → Option (Nat × List Nat)
  | [] => none
  | n :: rest =>
    if n < 128 then some (n, rest)
    else
      let count := n - 128
      if count = 0 || 4 < count || rest.length < count then none
      else some ((rest.take count).foldl (fun n b => n * 256 + b) 0, rest.drop count)

/-- The parts that bytes consist of; `fuel` bounds their number, for which the number of bytes is
enough. -/
def elementsFrom : Nat → List Nat → Option (List Element)
  | _, [] => some []
  | 0, _ :: _ => none
  | fuel + 1, tag :: rest => do
    let (length, body) ← length? rest
    if body.length < length then none
    let more ← elementsFrom fuel (body.drop length)
    return ⟨tag, body.take length⟩ :: more

/-- The parts that bytes consist of. -/
def elements? (bytes : List Nat) : Option (List Element) := elementsFrom bytes.length bytes

/-- The tag of a sequence of parts. -/
def sequenceTag : Nat := 0x30

/-- The tags of the parts of what is certified: after the version, which may be missing, a number,
the algorithm, the issuer, the validity, the subject and its key. -/
def subjectTags : List Nat := [0x02, 0x30, 0x30, 0x30, 0x30, 0x30]

/-- Whether the bytes of a part are what can be certified. -/
def isSubject (contents : List Nat) : Bool :=
  match elements? contents with
  | none => false
  | some found =>
    let tags := found.map (·.tag)
    let named := if tags.head? = some 0xA0 then tags.drop 1 else tags
    subjectTags.isPrefixOf named

/-- Whether bytes are a certificate: what is certified, an algorithm and a signature. -/
def isCertificate (bytes : List Nat) : Bool :=
  match elements? bytes with
  | some [whole] =>
    whole.tag = sequenceTag &&
      match elements? whole.contents with
      | some [subject, algorithm, signature] =>
        subject.tag = sequenceTag && algorithm.tag = sequenceTag && signature.tag = 0x03 &&
          isSubject subject.contents
      | _ => false
  | _ => false

/-- The digits of a certificate, given as its lines; an empty line may only stand at the start. -/
def digits? (piece : List (List Char)) : Option (List Char) :=
  match piece with
  | first :: rest =>
    let body := rest.dropLast
    let body := if body.head? = some [] then body.drop 1 else body
    if first = opening && rest.getLast? = some closing && !body.any (·.isEmpty) then
      some body.flatten
    else none
  | [] => none

/-- Whether a document is a certificate. -/
def isValid (document : String) : Bool :=
  match (digits? (lines document.toList)).bind bytes? with
  | some bytes => isCertificate bytes
  | none => false

end Listing.Settings.Certificate
