/-!
# Requests

What a command line asks for: to generate handlers, to show their routes, to show a page of help
or to state the version. A command line that asks for none of these is a fault of usage, which has
a cause; the wording of the causes is here.
-/

set_option autoImplicit false

namespace EntityForge.CommandLine

/-- The name by which the program is called. -/
def programName : String := "crudgen"

/-- The version of the program. -/
def version : String := "0.1.0"

/-- What the program can be told to do with a model. -/
inductive Verb where
  | generate
  | map
deriving DecidableEq, Repr

namespace Verb

/-- The verbs. -/
def all : List Verb := [.generate, .map]

/-- The word for a verb. -/
def word : Verb → String
  | .generate => "generate"
  | .map => "map"

/-- The verb for a word. -/
def ofWord? (word : String) : Option Verb := all.find? fun verb => verb.word == word

end Verb

/-- The word that asks for help in place of a verb. -/
def helpWord : String := "help"

/-- Something that is followed by a value. -/
inductive ValueOption where
  /-- A file of the model. -/
  | model
  /-- The output directory. -/
  | output
  /-- The file of the settings. -/
  | settings
deriving DecidableEq, Repr

/-- How an option is shown. -/
def ValueOption.shown : ValueOption → String
  | .model => "--model <MODEL>"
  | .output => "--output <OUTPUT>"
  | .settings => "--config <CONFIG>"

/-- Something that is either there or not. -/
inductive Switch where
  /-- Routes are shown as JSON. -/
  | json
  /-- Log lines are written as JSON. -/
  | jsonLog
  /-- A page of help is shown. -/
  | help
  /-- The version is shown. -/
  | version
deriving DecidableEq, Repr

/-- How a switch is shown. -/
def Switch.shown : Switch → String
  | .json => "--json"
  | .jsonLog => "--log-json"
  | .help => "--help"
  | .version => "--version"

/-- What is to be done with a model. -/
inductive Task where
  /-- Handlers are generated into a directory. -/
  | generate (output : String)
  /-- Routes are shown, perhaps as JSON. -/
  | map (asJson : Bool)
deriving DecidableEq, Repr

/-- The directory into which handlers are generated if none is stated. -/
def standardOutput : String := "build/crudgen"

/-- A task with the files that it needs. -/
structure Request where
  /-- The task. -/
  task : Task
  /-- The files of the model in order. -/
  models : List String
  /-- The file of the settings, if there is one. -/
  settings : Option String
  /-- Whether log lines are written as JSON. -/
  jsonLog : Bool
deriving DecidableEq, Repr

/-- A page of help. -/
inductive Page where
  /-- The page on the whole program. -/
  | overview
  /-- The page on a verb. -/
  | verb (verb : Verb)
  /-- The page on asking for help. -/
  | help
deriving DecidableEq, Repr

/-- What a command line asks for. -/
inductive Wish where
  | serve (request : Request)
  | read (page : Page)
  | version
deriving DecidableEq, Repr

/-- Why a command line cannot be understood. -/
inductive UsageFault where
  /-- Nothing is asked for. -/
  | nothingAsked
  /-- No verb is there, though something else is. -/
  | verbMissing
  /-- A word stands in place of a verb. -/
  | unknownVerb (word : String)
  /-- An argument is not known where it stands. -/
  | unexpectedArgument (argument : String)
  /-- A switch has a value. -/
  | unexpectedValue (value : String) (switch : Switch)
  /-- An option has no value. -/
  | valueMissing (option : ValueOption)
  /-- An argument that may come once comes again, as it is shown. -/
  | repeated (shown : String)
  /-- No file of the model is stated. -/
  | modelMissing
deriving DecidableEq, Repr

end EntityForge.CommandLine
