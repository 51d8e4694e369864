/-!
# Connection settings

How the relational store is reached. `Connection.text` writes the settings as pairs of a keyword
and a value; every value that is free is put in single quotes, with a backslash in front of quotes
and backslashes, so that no value can end early or add a pair.
-/

namespace Listing.Settings

/-- How much a connection is protected. -/
inductive Protection where
  /-- Not at all. -/
  | disable
  /-- Encrypted if the store can. -/
  | prefer
  /-- Always encrypted. -/
  | require
  /-- Encrypted, with a certificate that is trusted. -/
  | verifyCa
  /-- Encrypted, with a certificate that is trusted and made out to the host. -/
  | verifyFull
deriving DecidableEq, Repr

namespace Protection

/-- The word for a protection in a configuration. -/
def word : Protection → String
  | disable => "Disable"
  | prefer => "Prefer"
  | require => "Require"
  | verifyCa => "VerifyCa"
  | verifyFull => "VerifyFull"

/-- All protections. -/
def all : List Protection := [disable, prefer, require, verifyCa, verifyFull]

/-- The protection with a word. -/
def ofWord? (w : String) : Option Protection := all.find? (·.word == w)

/-- The word for a protection among the pairs, which do not tell apart what is verified. -/
def mode : Protection → String
  | disable => "disable"
  | prefer => "prefer"
  | require | verifyCa | verifyFull => "require"

/-- Whether the certificate of the store has to be trusted. -/
def verifies : Protection → Bool
  | verifyCa | verifyFull => true
  | _ => false

end Protection

/-- How the relational store is reached. -/
structure Connection where
  /-- The host. -/
  host : String
  /-- The port of the host. -/
  port : Nat
  /-- The database on the host. -/
  database : String
  /-- The user. -/
  username : String
  /-- The password of the user. -/
  password : String
  /-- How much the connection is protected. -/
  protection : Protection
  /-- Whether certificates that are not trusted are accepted, unless they have to be trusted. -/
  acceptInvalidCerts : Bool
  /-- A file with certificates to trust. -/
  caCertPath : Option String
  /-- The number of connections that are kept. -/
  poolSize : Nat
deriving DecidableEq, Repr

namespace Connection

/-- The settings where nothing is said. -/
def standard : Connection :=
  ⟨"localhost", 5432, "postgres", "postgres", "", .prefer, false, none, 16⟩

/-- A value in quotes. -/
def quote (value : String) : String :=
  String.ofList
    ('\'' :: value.toList.flatMap (fun c => if c = '\\' || c = '\'' then ['\\', c] else [c]) ++
      ['\''])

/-- The settings as pairs of a keyword and a value as it is written. -/
def pairs (c : Connection) : List (String × String) :=
  [("host", quote c.host), ("port", toString c.port), ("dbname", quote c.database),
    ("user", quote c.username), ("password", quote c.password), ("sslmode", c.protection.mode),
    ("connect_timeout", "10"), ("application_name", "listql"),
    ("options", quote "-c TimeZone=UTC")]

/-- The settings in one line. -/
def text (c : Connection) : String :=
  " ".intercalate (c.pairs.map fun p => p.1 ++ "=" ++ p.2)

/-- Who is connected to what, without the password. -/
def displayText (c : Connection) : String :=
  c.username ++ "@" ++ c.host ++ ":" ++ toString c.port ++ "/" ++ c.database

end Connection

end Listing.Settings
