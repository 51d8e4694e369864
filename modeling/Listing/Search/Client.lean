import Listing.Error
import Listing.Json.Reader
import Listing.Json.Record
import Listing.Number.Integer
import Listing.Search.Clause
import Listing.Text.Percent

/-!
# Talking to the search index

The requests that a list request makes to the search index and what their answers say. A `Client`
knows where the index is and who asks; how a request gets there is left open: it acts in any monad
`m`. Every status other than a success is a failure, but for the question whether an index exists.

`Script.client` is the client with which conversations with the search index are observed.
-/

namespace Listing.Search

open Record

/-- The kinds of requests. -/
inductive Method where
  /-- Asks for the status alone. -/
  | head
  /-- Asks with a body. -/
  | post
  /-- Asks to remove something. -/
  | delete
deriving DecidableEq, Repr

/-- The word for a kind of requests. -/
def Method.word : Method → String
  | head => "HEAD"
  | post => "POST"
  | delete => "DELETE"

/-- A request. -/
structure Request where
  /-- The kind of the request. -/
  method : Method
  /-- The address behind that of the index, without the slash. -/
  path : String
  /-- What is sent along. -/
  body : Option Json

/-- An answer. -/
structure Response where
  /-- The status. -/
  status : Nat
  /-- The text of the answer. -/
  body : String
deriving DecidableEq, Repr

/-- Whether a status is a success. -/
def isSuccess (status : Nat) : Bool := 200 ≤ status && status < 300

/-- Where the search index is and who asks. -/
structure Endpoint where
  /-- The address of the index, without slashes at its end. -/
  baseUrl : String
  /-- The user, if one has to be named. -/
  username : Option String
  /-- The password of the user. -/
  password : Option String
deriving DecidableEq, Repr

/-- The endpoint at an address. -/
def Endpoint.ofUrl (url : String) (username password : Option String) : Endpoint :=
  ⟨String.ofList (url.toList.reverse.dropWhile (· = '/')).reverse, username, password⟩

/-- The address of a request. -/
def Endpoint.urlOf (e : Endpoint) (r : Request) : String := e.baseUrl ++ "/" ++ r.path

/-- The character for a value below 64 in base 64. -/
def base64Digit (v : Nat) : Char :=
  if v < 26 then Char.ofNat (65 + v)
  else if v < 52 then Char.ofNat (97 + (v - 26))
  else if v < 62 then Char.ofNat (48 + (v - 52))
  else if v = 62 then '+'
  else '/'

/-- The printable form of a byte string: three bytes become four characters, and equals signs fill
the last group. -/
def base64 : List UInt8 → List Char
  | [] => []
  | [a] =>
    let n := a.toNat * 16
    [base64Digit (n / 64), base64Digit (n % 64), '=', '=']
  | [a, b] =>
    let n := (a.toNat * 256 + b.toNat) * 4
    [base64Digit (n / 4096), base64Digit (n / 64 % 64), base64Digit (n % 64), '=']
  | a :: b :: c :: rest =>
    let n := a.toNat * 65536 + b.toNat * 256 + c.toNat
    base64Digit (n / 262144) :: base64Digit (n / 4096 % 64) :: base64Digit (n / 64 % 64) ::
      base64Digit (n % 64) :: base64 rest

/-- The authorization that is sent with every request. -/
def Endpoint.authorization? (e : Endpoint) : Option String :=
  e.username.map fun user =>
    let credentials := user ++ ":" ++ e.password.getD ""
    "Basic " ++ String.ofList (base64 credentials.toUTF8.toList)

/-- A way to send requests; no answer means that the search index could not be reached. -/
structure Client (m : Type → Type) where
  /-- Sends a request. -/
  send : Request → m (Option Response)

/-! ### Requests -/

/-- Asks whether an index exists. -/
def existsRequest (index : String) : Request := ⟨.head, Text.Percent.encode index, none⟩

/-- Asks how many documents of an index meet a clause. -/
def countRequest (index : String) (query : Json) : Request :=
  ⟨.post, Text.Percent.encode index ++ "/_count", some (Clause.only "query" query)⟩

/-- Asks for a point in time of an index. -/
def openRequest (index keepAlive : String) : Request :=
  ⟨.post, Text.Percent.encode index ++ "/_pit?keep_alive=" ++ Text.Percent.encode keepAlive, none⟩

/-- Gives a point in time back. -/
def closeRequest (id : String) : Request :=
  ⟨.delete, "_pit", some (Clause.only "id" (.string id))⟩

/-- Asks for documents. -/
def searchRequest (body : Json) : Request := ⟨.post, "_search", some body⟩

/-! ### Answers -/

/-- A document that was found. -/
structure Hit where
  /-- The document. -/
  source : Members
  /-- The values by which it was ordered, if they were sent. -/
  sort : Option (List Json)

/-- Documents that were found. -/
structure Found where
  /-- The point in time to go on with, if it changed. -/
  pointInTime : Option String
  /-- The documents, in order. -/
  hits : List Hit

/-- The number of documents of an answer. -/
def countOf? (j : Json) : Option Int := do
  let parts ← parts? .message ["count"] j
  let n ← needed? parts "count" Json.integer?
  if -(Number.signedBound : Int) ≤ n && n < Number.signedBound then some n else none

/-- The point in time of an answer. -/
def pointInTimeOf? (j : Json) : Option String := do
  let parts ← parts? .message ["id"] j
  needed? parts "id" Json.string?

/-- A document of an answer. -/
def hitOf? (j : Json) : Option Hit := do
  let parts ← parts? .message ["_source", "sort"] j
  let source ← part? parts "_source" Json.object? []
  let sort ← part? parts "sort" (orAbsent? Json.array?) none
  return ⟨source, sort⟩

/-- The documents inside an answer. -/
def hitsOf? (j : Json) : Option (List Hit) := do
  let parts ← parts? .message ["hits"] j
  part? parts "hits" (list? hitOf?) []

/-- The documents of an answer, and the point in time to go on with. -/
def foundOf? (j : Json) : Option Found := do
  let parts ← parts? .message ["pit_id", "hits"] j
  let pointInTime ← part? parts "pit_id" (orAbsent? Json.string?) none
  let hits ← needed? parts "hits" hitsOf?
  return ⟨pointInTime, hits⟩

/-! ### Exchanges -/

/-- A successful answer, or the failure that it is instead. -/
def success (answer : Option Response) : Except BackendError Response :=
  match answer with
  | none => .error (.transport false)
  | some r => if isSuccess r.status then .ok r else .error (.search r.status r.body)

/-- What a successful answer says. -/
def decodeWith {α : Type} (read : Json → Option α) (answer : Option Response) :
    Except BackendError α :=
  match success answer with
  | .error e => .error e
  | .ok r =>
    match (Json.read? r.body).bind read with
    | some a => .ok a
    | none => .error (.transport true)

/-- Whether an index exists, by the answer to the question. -/
def existence (answer : Option Response) : Except BackendError Bool :=
  match answer with
  | some r => if r.status = 404 then .ok false else (success answer).map fun _ => true
  | none => (success answer).map fun _ => true

namespace Client

variable {m : Type → Type} [Monad m]

/-- Whether an index exists. -/
def indexExists (c : Client m) (index : String) : m (Except BackendError Bool) := do
  return existence (← c.send (existsRequest index))

/-- How many documents of an index meet a clause. -/
def count (c : Client m) (index : String) (query : Json) : m (Except BackendError Int) := do
  return decodeWith countOf? (← c.send (countRequest index query))

/-- Opens a point in time of an index. -/
def openPointInTime (c : Client m) (index keepAlive : String) :
    m (Except BackendError String) := do
  return decodeWith pointInTimeOf? (← c.send (openRequest index keepAlive))

/-- Closes a point in time. -/
def closePointInTime (c : Client m) (id : String) : m (Except BackendError Unit) := do
  return (success (← c.send (closeRequest id))).map fun _ => ()

/-- Finds documents. -/
def search (c : Client m) (body : Json) : m (Except BackendError Found) := do
  return decodeWith foundOf? (← c.send (searchRequest body))

end Client

/-! ### Scripted answers -/

/-- The answers that the search index is going to give, and the requests that it was given so far.
An answer that is missing from the list means that the index could not be reached. -/
structure Script where
  /-- The answers, in order; none where the index cannot be reached. -/
  answers : List (Option Response)
  /-- The requests so far, in order. -/
  sent : List Request

/-- A client that is answered from a script. -/
def Script.client : Client (StateM Script) where
  send request := fun s =>
    ((s.answers.head?).join, { answers := s.answers.tail, sent := s.sent ++ [request] })

end Listing.Search
