import Listing.Schema.Registry
import Listing.Settings.Connection
import Listing.Settings.Schema
import Listing.Toml.Reader

/-!
# The configuration

Everything that the service has to be told: the relational store, the search index if there is one,
the largest page and the entities. `Application.ofText?` reads it from a configuration file. Its
document leaves the passwords out.
-/

namespace Listing.Settings

open Record

namespace Connection

/-- The names of the settings, in order. -/
def partNames : List String :=
  ["host", "port", "database", "username", "password", "ssl_mode", "accept_invalid_certs",
    "ca_cert_path", "pool_size"]

/-- The settings that a document holds. -/
def read? (d : Dialect) (j : Json) : Option Connection := do
  let parts ← parts? d partNames j
  let host ← part? parts "host" Json.string? standard.host
  let port ← part? parts "port" (natural? (Nat.pow 2 16)) standard.port
  let database ← part? parts "database" Json.string? standard.database
  let username ← part? parts "username" Json.string? standard.username
  let password ← part? parts "password" Json.string? standard.password
  let protection ← part? parts "ssl_mode" (word? d Protection.ofWord?) standard.protection
  let acceptInvalidCerts ← part? parts "accept_invalid_certs" Json.bool? standard.acceptInvalidCerts
  let caCertPath ← part? parts "ca_cert_path" (orAbsent? Json.string?) standard.caCertPath
  let poolSize ← part? parts "pool_size" size? standard.poolSize
  return ⟨host, port, database, username, password, protection, acceptInvalidCerts, caCertPath,
    poolSize⟩

/-- The document of the settings, without the password. -/
def document (c : Connection) : Json :=
  .ofPairs
    [("host", .string c.host), ("port", ofNatural c.port), ("database", .string c.database),
      ("username", .string c.username), ("ssl_mode", .string c.protection.word),
      ("accept_invalid_certs", .bool c.acceptInvalidCerts),
      ("ca_cert_path", orNull .string c.caCertPath), ("pool_size", ofNatural c.poolSize)]

end Connection

/-- How the search index is reached. -/
structure IndexConnection where
  /-- The address of the index. -/
  url : String
  /-- What the names of all indices begin with. -/
  indexPrefix : String
  /-- The user. -/
  username : Option String
  /-- The password of the user. -/
  password : Option String
  /-- How many seconds an answer may take. -/
  timeoutSeconds : Nat
deriving DecidableEq, Repr

namespace IndexConnection

/-- The settings where nothing is said. -/
def standard : IndexConnection := ⟨"http://localhost:9200", "", none, none, 30⟩

/-- The names of the settings, in order. -/
def partNames : List String := ["url", "index_prefix", "username", "password", "timeout_secs"]

/-- The settings that a document holds. -/
def read? (d : Dialect) (j : Json) : Option IndexConnection := do
  let parts ← parts? d partNames j
  let url ← part? parts "url" Json.string? standard.url
  let indexPrefix ← part? parts "index_prefix" Json.string? standard.indexPrefix
  let username ← part? parts "username" (orAbsent? Json.string?) standard.username
  let password ← part? parts "password" (orAbsent? Json.string?) standard.password
  let timeoutSeconds ← part? parts "timeout_secs" size? standard.timeoutSeconds
  return ⟨url, indexPrefix, username, password, timeoutSeconds⟩

/-- The document of the settings, without the password. -/
def document (s : IndexConnection) : Json :=
  .ofPairs
    [("url", .string s.url), ("index_prefix", .string s.indexPrefix),
      ("username", orNull .string s.username), ("timeout_secs", ofNatural s.timeoutSeconds)]

end IndexConnection

/-- The largest page where nothing is said. -/
def standardListSize : Nat := 100

/-- The largest page that the settings of the interface allow. -/
def listSize? (d : Dialect) (j : Json) : Option Nat := do
  let parts ← parts? d ["max_list_size"] j
  part? parts "max_list_size" size? standardListSize

/-- A configuration. -/
structure Application where
  /-- How the relational store is reached. -/
  store : Connection
  /-- How the search index is reached, if there is one. -/
  searchIndex : Option IndexConnection
  /-- The largest page, unless an entity has another one. -/
  maxListSize : Nat
  /-- What can be listed. -/
  entities : List EntityDescription
deriving DecidableEq, Repr

namespace Application

/-- The names of the settings, in order. -/
def partNames : List String := ["postgres", "elastic", "api", "entities"]

/-- The configuration that a document holds. -/
def read? (d : Dialect) (j : Json) : Option Application := do
  let parts ← parts? d partNames j
  let store ← part? parts "postgres" (Connection.read? d) .standard
  let searchIndex ← part? parts "elastic" (orAbsent? (IndexConnection.read? d)) none
  let maxListSize ← part? parts "api" (listSize? d) standardListSize
  let entities ← part? parts "entities" (list? (EntityDescription.read? d)) []
  return ⟨store, searchIndex, maxListSize, entities⟩

/-- The configuration that a configuration file holds. -/
def ofText? (text : String) : Option Application :=
  (Toml.read? text).bind (read? .configuration)

/-- The document of a configuration, without the passwords. -/
def document (a : Application) : Json :=
  .ofPairs
    [("postgres", a.store.document),
      ("elastic", orNull IndexConnection.document a.searchIndex),
      ("api", .ofPairs [("max_list_size", ofNatural a.maxListSize)]),
      ("entities", .array (a.entities.map EntityDescription.document))]

/-- The entities that can be listed, or the first fault in their descriptions. -/
def registry (a : Application) : Except SchemaError Registry :=
  Registry.ofDescriptions a.entities

/-- Says that the configuration file cannot be read. -/
def unreadableMessage (path : String) : String := "Failed to read config file: " ++ path

/-- Says that the configuration file holds no configuration. -/
def invalidMessage (path : String) : String := "Invalid config file: " ++ path

end Application

end Listing.Settings
