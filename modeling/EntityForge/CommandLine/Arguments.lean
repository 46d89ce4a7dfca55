import EntityForge.CommandLine.Request

/-!
# Reading a command line

Before the verb only switches stand; behind it stand options, each followed by a value, and
switches. An option waits for the next argument, unless its value stands in the same argument.
What an option has got is only looked at when the next option or switch comes or the command line
ends, so that an argument that is not known is reported before an empty or a repeated value.
-/

set_option autoImplicit false

namespace EntityForge.CommandLine

/-- An argument by its form. -/
inductive Argument where
  /-- Two dashes, behind which nothing is an option. -/
  | dashes
  /-- Two dashes with a name and perhaps a value. -/
  | long (name : String) (value : Option String)
  /-- A dash with a letter and what follows it. -/
  | short (letter : Char) (attached : List Char)
  /-- Anything else. -/
  | plain (text : String)
deriving DecidableEq, Repr

/-- The form of an argument. -/
def Argument.ofText (text : String) : Argument :=
  match text.toList with
  | '-' :: '-' :: [] => .dashes
  | '-' :: '-' :: rest =>
    let name := String.ofList (rest.takeWhile (· != '='))
    match rest.dropWhile (· != '=') with
    | [] => .long name none
    | _ :: value => .long name (some (String.ofList value))
  | '-' :: letter :: attached => .short letter attached
  | _ => .plain text

/-- What an argument with a dash stands for. -/
inductive Meaning where
  | option (option : ValueOption)
  | switch (switch : Switch)
deriving DecidableEq, Repr

/-- What names and letters stand for. -/
structure Vocabulary where
  /-- What names stand for. -/
  names : List (String × Meaning)
  /-- What letters stand for. -/
  letters : List (Char × Meaning)

/-- What is known before the verb. -/
def vocabulary : Vocabulary where
  names := [("log-json", .switch .jsonLog), ("help", .switch .help), ("version", .switch .version)]
  letters := [('h', .switch .help), ('V', .switch .version)]

/-- What is known behind a verb. -/
def Verb.vocabulary : Verb → Vocabulary
  | .generate =>
    { names := [("model", .option .model), ("output", .option .output),
        ("config", .option .settings), ("log-json", .switch .jsonLog), ("help", .switch .help)]
      letters := [('m', .option .model), ('o', .option .output), ('h', .switch .help)] }
  | .map =>
    { names := [("model", .option .model), ("json", .switch .json),
        ("config", .option .settings), ("log-json", .switch .jsonLog), ("help", .switch .help)]
      letters := [('m', .option .model), ('h', .switch .help)] }

/-- What stood behind the verb so far. -/
structure Given where
  /-- The files of the model. -/
  models : List String
  /-- The output directory. -/
  output : Option String
  /-- The file of the settings. -/
  settings : Option String
  /-- Whether routes are shown as JSON. -/
  json : Bool
  /-- Whether log lines are written as JSON. -/
  jsonLog : Bool
deriving DecidableEq, Repr

namespace Given

/-- Nothing stood behind the verb. -/
def nothing : Given := ⟨[], none, none, false, false⟩

/-- Whether an option that may come once has come. -/
def isTaken (given : Given) : ValueOption → Bool
  | .model => false
  | .output => given.output.isSome
  | .settings => given.settings.isSome

/-- Adds the value of an option. -/
def add (given : Given) (value : String) : ValueOption → Given
  | .model => { given with models := given.models ++ [value] }
  | .output => { given with output := some value }
  | .settings => { given with settings := some value }

/-- Takes the value of an option. -/
def take (given : Given) (option : ValueOption) (value : String) : Except UsageFault Given :=
  if given.isTaken option then .error (.repeated option.shown)
  else if value = "" then .error (.valueMissing option)
  else .ok (given.add value option)

/-- Takes a switch that does not end the reading. -/
def turnOn (given : Given) (switch : Switch) : Except UsageFault Given :=
  let isOn : Bool :=
    match switch with
    | .json => given.json
    | .jsonLog => given.jsonLog
    | _ => false
  if isOn then .error (.repeated switch.shown)
  else
    .ok (match switch with
      | .json => { given with json := true }
      | .jsonLog => { given with jsonLog := true }
      | _ => given)

/-- The request that a verb with what is given makes. -/
def request (given : Given) (verb : Verb) : Request where
  task :=
    match verb with
    | .generate => .generate (given.output.getD standardOutput)
    | .map => .map given.json
  models := given.models
  settings := given.settings
  jsonLog := given.jsonLog

end Given

/-- The option that came last, with the value that it has got. -/
abbrev Waiting : Type := Option (ValueOption × Option String)

/-- Takes the option that came last. -/
def Given.settle (given : Given) : Waiting → Except UsageFault Given
  | none => .ok given
  | some (option, none) => .error (.valueMissing option)
  | some (option, some value) => given.take option value

/-- The value that stands in one argument with the letter of its option. -/
def attachedValue : List Char → Option String
  | [] => none
  | '=' :: value => some (String.ofList value)
  | value => some (String.ofList value)

namespace Verb

/-- Reads what stands behind a verb. -/
def read (verb : Verb) (given : Given) (waiting : Waiting) :
    List String → Except UsageFault Wish
  | [] =>
    match given.settle waiting with
    | .error fault => .error fault
    | .ok given =>
      if given.models.isEmpty then .error .modelMissing else .ok (.serve (given.request verb))
  | text :: rest =>
    let meant (shown : String) (value : Option String) (meaning : Option Meaning) :
        Except UsageFault Wish :=
      match meaning, value with
      | none, _ => .error (.unexpectedArgument shown)
      | some (.switch switch), some value => .error (.unexpectedValue value switch)
      | some (.switch switch), none =>
        match given.settle waiting with
        | .error fault => .error fault
        | .ok given =>
          if switch = .help then .ok (.read (.verb verb))
          else
            match given.turnOn switch with
            | .error fault => .error fault
            | .ok given => read verb given none rest
      | some (.option option), value =>
        match given.settle waiting with
        | .error fault => .error fault
        | .ok given =>
          match value with
          | none => read verb given (some (option, none)) rest
          | some value =>
            match given.take option value with
            | .error fault => .error fault
            | .ok given => read verb given none rest
    match Argument.ofText text with
    | .dashes =>
      match rest with
      | [] => read verb given waiting rest
      | argument :: _ => .error (.unexpectedArgument argument)
    | .long name value => meant ("--" ++ name) value (verb.vocabulary.names.lookup name)
    | .short letter attached =>
      let shown := String.ofList ['-', letter]
      match verb.vocabulary.letters.lookup letter with
      | some (.switch switch) => meant shown none (some (.switch switch))
      | meaning => meant shown (attachedValue attached) meaning
    | .plain text =>
      match waiting with
      | some (option, none) => read verb given (some (option, some text)) rest
      | _ => .error (.unexpectedArgument text)

end Verb

/-- The page that the words behind the word for help ask for. -/
def helpPage : List String → Except UsageFault Page
  | [] => .ok .overview
  | word :: rest =>
    let page : Option Page :=
      if word = helpWord then some .help else (Verb.ofWord? word).map .verb
    match page, rest with
    | none, _ => .error (.unknownVerb word)
    | some page, [] => .ok page
    | some _, other :: _ => .error (.unknownVerb other)

/-- What a request becomes when log lines are asked for as JSON before the verb. -/
def Wish.withJsonLog (jsonLog : Bool) : Wish → Wish
  | .serve request => .serve { request with jsonLog := jsonLog || request.jsonLog }
  | wish => wish

/-- Reads a command line from before its verb. -/
def readFrom (jsonLog : Bool) : List String → Except UsageFault Wish
  | [] => .error (if jsonLog then .verbMissing else .nothingAsked)
  | text :: rest =>
    match Verb.ofWord? text with
    | some verb => (verb.read .nothing none rest).map (Wish.withJsonLog jsonLog)
    | none =>
      if text = helpWord then (helpPage rest).map .read
      else
        let meant (shown : String) (value : Option String) (meaning : Option Meaning) :
            Except UsageFault Wish :=
          match meaning, value with
          | some (.switch switch), some value => .error (.unexpectedValue value switch)
          | some (.switch .help), none => .ok (.read .overview)
          | some (.switch .version), none => .ok .version
          | some (.switch switch), none =>
            if jsonLog then .error (.repeated switch.shown) else readFrom true rest
          | _, _ => .error (.unexpectedArgument shown)
        match Argument.ofText text with
        | .dashes =>
          match rest with
          | [] => readFrom jsonLog rest
          | argument :: _ =>
            if argument = helpWord ∨ (Verb.ofWord? argument).isSome then
              .error (.unexpectedArgument argument)
            else .error (.unknownVerb argument)
        | .long name value => meant ("--" ++ name) value (vocabulary.names.lookup name)
        | .short letter _ =>
          meant (String.ofList ['-', letter]) none (vocabulary.letters.lookup letter)
        | .plain word => .error (.unknownVerb word)

/-- What a command line asks for. -/
def read (arguments : List String) : Except UsageFault Wish := readFrom false arguments

end EntityForge.CommandLine
