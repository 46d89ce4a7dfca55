import EntityForge.Settings
import EntityForge.Yaml.Node
import EntityForge.Yaml.Scalar
import EntityForge.Yaml.Writer

/-!
# Settings as YAML

Settings are stored as a mapping of their names to texts. When they are read, a name may be missing,
an unknown name is passed over with its value, and any scalar counts as text; a list, a mapping or a
name that comes twice is refused. A text without content states nothing. Settings that were read are
validated.
-/

set_option autoImplicit false

namespace EntityForge

open Yaml (Node Mark Refusal Cause Found)

namespace Settings

/-- What a diagnostic calls settings. -/
def recordName : String := "GeneratorConfig"

/-- The texts that were read so far, under their names. -/
abbrev Stated : Type := List (String × String)

/-- Whether settings have a name. -/
def isNamed (name : String) : Bool := standard.named.any (fun entry => entry.1 == name)

/-- The name that a key of a document states. -/
def keyName (root key : Node) : Except Refusal String :=
  match root.resolve key with
  | .scalar _ text _ => .ok (String.ofList text)
  | .list properties _ => .error (.unfit (.wrongType .list .fieldName) none properties.mark)
  | .mapping properties _ => .error (.unfit (.wrongType .mapping .fieldName) none properties.mark)
  | .reference mark _ => .error (.unfit (.wrongType .nothing .fieldName) none mark)

/-- The path of a value: its key as it is written, which a reference is not. -/
def keyPath : Node → String
  | .scalar _ text _ => String.ofList text
  | _ => "?"

/-- The text that a value of a document states. -/
def valueText (root key value : Node) : Except Refusal String :=
  let wrong (found : Found) (mark : Mark) : Except Refusal String :=
    .error (.unfit (.wrongType found .text) (some (keyPath key)) mark)
  match root.resolve value with
  | .scalar _ text _ => .ok (String.ofList text)
  | .list properties _ => wrong .list properties.mark
  | .mapping properties _ => wrong .mapping properties.mark
  | .reference mark _ => wrong .nothing mark

/-- Reads the entries of a document. -/
def statedBy (root : Node) : List (Node × Node) → Stated → Except Refusal Stated
  | [], stated => .ok stated
  | (key, value) :: entries, stated =>
    match keyName root key with
    | .error refusal => .error refusal
    | .ok name =>
      if !isNamed name then statedBy root entries stated
      else if (stated.lookup name).isSome then
        .error (.unfit (.repeatedField name) none root.mark)
      else
        match valueText root key value with
        | .error refusal => .error refusal
        | .ok text => statedBy root entries ((name, text) :: stated)

/-- Settings of which some are stated; the others are the standard ones. -/
def ofStated (stated : Stated) : Settings :=
  let given (name fallback : String) : String := (stated.lookup name).getD fallback
  ⟨given "marker_id" standard.markerId, given "namespace" standard.root,
    given "extension" standard.extension, given "diagnostic_file" standard.diagnosticFile⟩

/-- The settings that a document states. -/
def ofDocument : Option Node → Except Refusal Settings
  | none => .ok standard
  | some root =>
    let unfit (cause : Cause) : Except Refusal Settings := .error (.unfit cause none root.mark)
    match root with
    | .mapping _ entries =>
      match statedBy root entries [] with
      | .ok stated => .ok (ofStated stated)
      | .error refusal => .error refusal
    | .scalar properties text plain =>
      if plain && text.isEmpty then .ok standard
      else
        match Yaml.meaning properties.tag plain text with
        | .ok found => unfit (.wrongType found (.record recordName))
        | .error promise => unfit (.brokenPromise (String.ofList text) promise)
    | .list _ _ => unfit (.wrongType .list (.record recordName))
    | .reference _ _ => .error .malformed

/-- Reads settings from YAML and validates them. -/
def ofYaml (text : String) : Except Fault Settings :=
  match Yaml.parse? text.toList with
  | none => .error (.yaml .malformed)
  | some document =>
    match ofDocument document with
    | .error refusal => .error (.yaml refusal)
    | .ok settings =>
      match settings.validate with
      | .error fault => .error fault
      | .ok () => .ok settings

/-- Settings as YAML. -/
def toYaml (settings : Settings) : String := String.ofList (Yaml.mappingChars settings.named)

end Settings

end EntityForge
