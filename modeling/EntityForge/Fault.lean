import EntityForge.Files.Fault
import EntityForge.Json.Refusal
import EntityForge.Yaml.Refusal

/-!
# Faults

Everything that can go wrong is a fault of one of six kinds. Each kind lists its causes, and the
wording of a cause is in one place, so that a diagnostic can be read off the fault alone.
-/

set_option autoImplicit false

namespace EntityForge

/-- Why settings, a marker or an artifact's path are refused. -/
inductive ConfigurationCause where
  /-- A stated reason. -/
  | stated (reason : String)
  /-- A marker's value is not an object. -/
  | markerNotObject
  /-- A marker lacks a member. -/
  | markerMemberMissing (key : String)
  /-- A marker's member is the empty text. -/
  | markerMemberEmpty (key : String)
  /-- A marker's member is no text; its value in compact form. -/
  | markerMemberNotText (key : String) (value : String)
  /-- A declaration lacks the marker. -/
  | markerNotApplied (id : String) (markerId : String)
  /-- The cause lies in the marker of a shape. -/
  | inShape (shape : String) (cause : ConfigurationCause)
  /-- A setting holds nothing but blanks. -/
  | settingEmpty (field : String)
  /-- The marker's id names no namespace. -/
  | markerIdNotAbsolute (markerId : String)
  /-- The directory of all artifacts begins or ends with a slash. -/
  | rootNotRelative (root : String)
  /-- The extension begins with a dot. -/
  | extensionDotted
  /-- An artifact's path leaves the output directory. -/
  | pathOutside (path : String)
deriving DecidableEq, Repr

/-- A diagnostic's words for a cause. -/
def ConfigurationCause.describe : ConfigurationCause → String
  | .stated reason => reason
  | .markerNotObject => "marker value must be an object"
  | .markerMemberMissing key => "marker member `" ++ key ++ "` is required"
  | .markerMemberEmpty key => "marker member `" ++ key ++ "` must not be empty"
  | .markerMemberNotText key value =>
    "marker member `" ++ key ++ "` must be a string, found " ++ value
  | .markerNotApplied id markerId => id ++ ": marker `" ++ markerId ++ "` is not applied"
  | .inShape shape cause => shape ++ ": " ++ cause.describe
  | .settingEmpty field => "`" ++ field ++ "` must not be empty"
  | .markerIdNotAbsolute markerId =>
    "`marker_id` must be an absolute shape id, got `" ++ markerId ++ "`"
  | .rootNotRelative root =>
    "`namespace` must be relative without a trailing slash, got `" ++ root ++ "`"
  | .extensionDotted => "`extension` must not start with a dot"
  | .pathOutside path => "artifact path `" ++ path ++ "` is not inside the output directory"

/-- Why a model or a part of it is refused. -/
inductive ModelCause where
  /-- A stated reason. -/
  | stated (reason : String)
  /-- A document is of a version that is not known. -/
  | unsupportedVersion (version : String)
  /-- Two documents define one shape. -/
  | definedTwice (id : String)
  /-- A shape's type name is not known. -/
  | unknownType (target : String) (type : String)
  /-- The prelude has no such shape. -/
  | unknownPrelude (target : String)
  /-- Nothing has the id that a member refers to. -/
  | unresolvedTarget (target : String)
  /-- A shape is its own mixin, perhaps through others. -/
  | mixinCycle (id : String)
  /-- No shape has the id. -/
  | notDefined (id : String)
  /-- The cause lies in a file. -/
  | inFile (path : String) (cause : ModelCause)
deriving DecidableEq, Repr

/-- A diagnostic's words for a cause. -/
def ModelCause.describe : ModelCause → String
  | .stated reason => reason
  | .unsupportedVersion version => "unsupported smithy version `" ++ version ++ "`"
  | .definedTwice id => "shape `" ++ id ++ "` is defined twice"
  | .unknownType target type => "shape `" ++ target ++ "` has unknown type `" ++ type ++ "`"
  | .unknownPrelude target => "unknown prelude shape `" ++ target ++ "`"
  | .unresolvedTarget target => "member target `" ++ target ++ "` cannot be resolved"
  | .mixinCycle id => "mixin cycle through `" ++ id ++ "`"
  | .notDefined id => "shape `" ++ id ++ "` is not defined"
  | .inFile path cause => path ++ ": " ++ cause.describe

/-- Why a template cannot be filled in. -/
inductive TemplateCause where
  /-- A stated reason. -/
  | stated (reason : String)
  /-- A slot has no value. -/
  | noValue (key : String)
deriving DecidableEq, Repr

/-- A diagnostic's words for a cause. -/
def TemplateCause.describe : TemplateCause → String
  | .stated reason => reason
  | .noValue key => "no value for placeholder `" ++ key ++ "`"

/-- What went wrong. -/
inductive Fault where
  | io (cause : FileFault)
  | yaml (refusal : Yaml.Refusal)
  | json (refusal : Json.Refusal)
  | configuration (cause : ConfigurationCause)
  | model (cause : ModelCause)
  | template (cause : TemplateCause)

namespace Fault

/-- The text of what went wrong, without its kind. -/
def detail : Fault → String
  | .io cause => cause.describe
  | .yaml refusal => refusal.message
  | .json refusal => refusal.message
  | .configuration cause => cause.describe
  | .model cause => cause.describe
  | .template cause => cause.describe

/-- The words for a kind of fault. -/
def heading : Fault → String
  | .io _ => "IO error"
  | .yaml _ => "YAML parsing error"
  | .json _ => "JSON parsing error"
  | .configuration _ => "Configuration error"
  | .model _ => "Model error"
  | .template _ => "Template error"

/-- The text of a fault. -/
def message (fault : Fault) : String := fault.heading ++ ": " ++ fault.detail

/-- Whether settings, a marker or a path are at fault. -/
def isConfiguration : Fault → Bool
  | .configuration _ => true
  | _ => false

/-- Whether a model is at fault. -/
def isModel : Fault → Bool
  | .model _ => true
  | _ => false

end Fault

end EntityForge
