import Listing.CommandLine

/-!
# The program

Reads a configuration and answers one command. This program has no connection to any store: a list
request that is right ends with the report that its store cannot be reached.
-/

namespace Listing.CommandLine

/-- A relational store that is out of reach. -/
def detachedStore : Store.Executor Id :=
  Store.Server.executor
    ⟨.error (.client "error connecting to server" none), fun _ => .ok ⟨[], []⟩⟩

/-- A search index that is out of reach. -/
def detachedIndex : Search.Client Id := ⟨fun _ => none⟩

/-- The service of a configuration. -/
def detachedService (a : Settings.Application) (registry : Registry) : Service Id :=
  ⟨registry, ⟨detachedStore, a.searchIndex.map fun s => ⟨detachedIndex, s.indexPrefix⟩, registry⟩,
    a.maxListSize⟩

/-- The text of a configuration file, if it can be read. -/
def fileText? (path : String) : IO (Option String) := do
  try
    return some (← IO.FS.readFile path)
  catch _ =>
    return none

/-- The file that is read if none is named. -/
def usualFile : IO String := do
  return ((← IO.getEnv "HOME").getD ".") ++ "/.config/listing/config.toml"

/-- Prints an error. -/
def fail (text : String) : IO UInt32 := do
  (← IO.getStderr).putStr text
  return 1

/-- Prints why the program crashes. -/
def crash (text : String) : IO UInt32 := do
  (← IO.getStderr).putStr text
  return 101

/-- Answers a list request. -/
def answerList (a : Settings.Application) (registry : Registry) (entity query : String) :
    IO UInt32 := do
  match (detachedService a registry).list some entity query with
  | .crashed _ => crash "capacity overflow\n"
  | .returned (.error e) => fail (causedBy ("Failed to list " ++ entity) e.message)
  | .returned (.ok page) =>
    IO.print (pageText page)
    return 0

/-- Answers a command about a configuration. -/
def answerWith (c : Command) (a : Settings.Application) : IO UInt32 := do
  match a.registry with
  | .error e => fail (causedBy "Invalid entity configuration" e.message)
  | .ok registry =>
    match c.entities, c.entity with
    | false, some entity => answerList a registry entity (c.query.getD "")
    | _, _ =>
      IO.print (entitiesText registry)
      return 0

/-- Answers a command. -/
def answer (c : Command) : IO UInt32 := do
  let path ← match c.config with
    | some path => pure path
    | none => usualFile
  match ← fileText? path with
  | none => fail ("Error: " ++ Settings.Application.unreadableMessage path ++ "\n")
  | some text =>
    match Settings.Application.ofText? text with
    | none => fail ("Error: " ++ Settings.Application.invalidMessage path ++ "\n")
    | some a => answerWith c a

end Listing.CommandLine

/-- Answers the command that the arguments are. -/
def main (args : List String) : IO UInt32 :=
  match Listing.CommandLine.Command.bare.ofArguments? args with
  | none => Listing.CommandLine.fail (Listing.CommandLine.usage ++ "\n")
  | some c => Listing.CommandLine.answer c
