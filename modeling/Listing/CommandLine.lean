import Listing.Service
import Listing.Settings.Application

/-!
# The command line

The arguments of a command and the text of its answer. The options may stand anywhere; what is no
option is the name of an entity and then a query string.
-/

namespace Listing.CommandLine

/-- What a command asks for. -/
structure Command where
  /-- The configuration file, if one is named. -/
  config : Option String
  /-- Whether only the names of the entities are asked for. -/
  entities : Bool
  /-- The entity to list. -/
  entity : Option String
  /-- The query string. -/
  query : Option String
deriving DecidableEq, Repr

/-- A command without arguments. -/
def Command.bare : Command := ⟨none, false, none, none⟩

/-- The command of some arguments that follow those of `c`; none if one of them is out of place. -/
def Command.ofArguments? (c : Command) : List String → Option Command
  | [] => if c.entities || c.entity.isSome then some c else none
  | "--config" :: path :: rest => { c with config := some path }.ofArguments? rest
  | "--entities" :: rest => { c with entities := true }.ofArguments? rest
  | word :: rest =>
    if word.startsWith "--" then none
    else
      match c.entity, c.query with
      | none, _ => { c with entity := some word }.ofArguments? rest
      | some _, none => { c with query := some word }.ofArguments? rest
      | some _, some _ => none

/-- How the command is called. -/
def usage : String := "usage: listing [--config PATH] (--entities | ENTITY [QUERY])"

/-- The answer to the question for the entities. -/
def entitiesText (registry : Registry) : String :=
  String.join (registry.names.map (· ++ "\n"))

/-- The answer to a list request: its headers and its records. -/
def pageText (page : Page Members) : String :=
  String.join (page.headers.map fun h => h.1 ++ ": " ++ h.2 ++ "\n") ++
    (Json.array (page.records.map .object)).indented 0 ++ "\n"

/-- The text of an error inside another one. -/
def causedBy (message cause : String) : String :=
  "Error: " ++ message ++ "\n\nCaused by:\n    " ++ cause ++ "\n"

end Listing.CommandLine
