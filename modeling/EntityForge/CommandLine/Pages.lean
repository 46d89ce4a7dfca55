import EntityForge.CommandLine.Request
import EntityForge.Text.Terminal

/-!
# Pages of help

The pages that are shown on request, and the message for a command line that cannot be understood. A
command line that asks for nothing gets the page on the whole program.
-/

set_option autoImplicit false

namespace EntityForge.CommandLine

/-- Lines with their ends. -/
def lines (texts : List String) : String := String.join (texts.map (· ++ "\n"))

/-- What a verb does. -/
def Verb.purpose : Verb → String
  | .generate => "Generate handler sources for every marked structure"
  | .map => "Show the generated handlers and their routes"

/-- What asking for help does. -/
def helpPurpose : String := "Print this message or the help of the given subcommand(s)"

/-- The lines on the options of a verb. -/
def Verb.optionLines : Verb → List String
  | .generate =>
    ["      --log-json         Emit logs as JSON lines",
     "  -m, --model <MODEL>    Smithy JSON AST files, merged in order",
     "  -o, --output <OUTPUT>  Output directory [default: " ++ standardOutput ++ "]",
     "      --config <CONFIG>  Generator config (YAML)",
     "  -h, --help             Print help"]
  | .map =>
    ["      --log-json         Emit logs as JSON lines",
     "  -m, --model <MODEL>    Smithy JSON AST files, merged in order",
     "      --json             Output as JSON",
     "      --config <CONFIG>  Generator config (YAML)",
     "  -h, --help             Print help"]

/-- The text of a page. -/
def Page.text : Page → String
  | .overview =>
    lines
      ["Generate DynamoDB CRUD handlers from a Smithy model", "",
       "Usage: " ++ programName ++ " [OPTIONS] <COMMAND>", "",
       "Commands:",
       "  generate  " ++ Verb.generate.purpose,
       "  map       " ++ Verb.map.purpose,
       "  help      " ++ helpPurpose, "",
       "Options:",
       "      --log-json  Emit logs as JSON lines",
       "  -h, --help      Print help",
       "  -V, --version   Print version"]
  | .verb asked =>
    lines
      ([asked.purpose, "",
        "Usage: " ++ programName ++ " " ++ asked.word ++ " [OPTIONS] --model <MODEL>", "",
        "Options:"] ++ asked.optionLines)
  | .help =>
    lines
      [helpPurpose, "",
       "Usage: " ++ programName ++ " " ++ helpWord ++ " [COMMAND]...", "",
       "Arguments:",
       "  [COMMAND]...  Print help for the subcommand(s)"]

/-- The text that states the version. -/
def versionText : String := lines [programName ++ " " ++ version]

/-- The message for a command line that cannot be understood. What it quotes is shown without orders
to a terminal. -/
def UsageFault.message : UsageFault → String
  | .nothingAsked => Page.overview.text
  | .verbMissing =>
    lines ["error: '" ++ programName ++ "' requires a subcommand but one was not provided"]
  | .unknownVerb word => lines ["error: unrecognized subcommand '" ++ Terminal.plain word ++ "'"]
  | .unexpectedArgument argument =>
    lines ["error: unexpected argument '" ++ Terminal.plain argument ++ "' found"]
  | .unexpectedValue value switch =>
    lines
      ["error: unexpected value '" ++ Terminal.plain value ++ "' for '" ++ switch.shown
        ++ "' found; no more were expected"]
  | .valueMissing option =>
    lines ["error: a value is required for '" ++ option.shown ++ "' but none was supplied"]
  | .repeated shown => lines ["error: the argument '" ++ shown ++ "' cannot be used multiple times"]
  | .modelMissing =>
    lines
      ["error: the following required arguments were not provided:",
       "  " ++ ValueOption.model.shown]

end EntityForge.CommandLine
