import EntityForge.Log.Event
import EntityForge.Log.Pattern
import EntityForge.Text.Bytes
import EntityForge.Text.Pieces

/-!
# Log filters

A filter is a list of rules, each of which lets the events of some targets pass up to a level. Of
the rules that apply to an event the one with the longest target decides; of two with the same
target the one that asks for a field comes first, and of two that are otherwise alike the later
one. An event to which no rule applies does not pass.

A filter is written as directives with commas between them: `level`, `target`, `target=level`, and
these with a place in brackets, which names a span or a field, and perhaps the value of the field.
Events lie in no span, so that a directive for a span lets nothing pass; neither does one for a
value, which only the fields of spans are asked for. `message` is the only field of an event.
-/

set_option autoImplicit false

namespace EntityForge

/-- Up to which level events pass; none is for no event at all. -/
abbrev Threshold : Type := Option Level

namespace Threshold

/-- Whether events of a level pass. -/
def admits : Threshold → Level → Bool
  | none, _ => false
  | some limit, level => level.verbosity ≤ limit.verbosity

/-- The thresholds from the one that lets nothing pass to the one that lets everything pass. -/
def ascending : List Threshold :=
  [none, some .error, some .warn, some .info, some .debug, some .trace]

/-- The name of a threshold in lower case. -/
def name : Threshold → String
  | none => "off"
  | some level => level.name.map Char.toLower

/-- The number that digits state, perhaps after a plus. -/
def number? (cs : List Char) : Option Nat :=
  let digits := if cs.head? = some '+' then cs.drop 1 else cs
  if digits ≠ [] ∧ digits.all Char.isDigit then
    some (digits.foldl (fun n c => 10 * n + (c.toNat - '0'.toNat)) 0)
  else none

/-- The threshold that a text states by its number or by its name in any case. -/
def ofText? (cs : List Char) : Option Threshold :=
  match (number? cs).bind (fun n => ascending[n]?) with
  | some threshold => some threshold
  | none => ascending.find? fun threshold => threshold.name == String.ofList (cs.map Char.toLower)

end Threshold

/-- Which events pass. -/
structure LogRule where
  /-- How the targets begin that are meant; every target if there is none. -/
  target : Option String
  /-- A field that the events must have. -/
  needs : Option String
  /-- Up to which level they pass. -/
  threshold : Threshold
deriving DecidableEq, Repr

namespace LogRule

/-- The only field of an event. -/
def messageField : String := "message"

/-- Whether a rule is meant for an event. -/
def applies (rule : LogRule) (event : Event) : Bool :=
  rule.target.all (fun target => target.toList.isPrefixOf event.target.toList)
    && rule.needs.all (· == messageField)

/-- How many bytes a target has, where no target at all is less than any. -/
def breadth (rule : LogRule) : Nat := (rule.target.map fun target => target.utf8ByteSize + 1).getD 0

/-- Whether a rule comes after another one when both apply. -/
def yieldsTo (rule other : LogRule) : Bool :=
  rule.breadth < other.breadth
    || (rule.breadth == other.breadth && (rule.needs.isNone || other.needs.isSome))

end LogRule

/-- What a directive says about a field. -/
structure FieldDemand where
  /-- The name of the field. -/
  name : String
  /-- Whether its value has to be a certain one. -/
  hasValue : Bool
deriving DecidableEq, Repr

namespace FieldDemand

/-- Whether a text is a number, which may be signed, infinite or none at all. -/
def isNumber (cs : List Char) : Bool :=
  let unsigned := if [some '+', some '-'].contains cs.head? then cs.drop 1 else cs
  let whole := unsigned.takeWhile Char.isDigit
  let rest := unsigned.dropWhile Char.isDigit
  let (fraction, rest) :=
    match rest with
    | '.' :: rest => (rest.takeWhile Char.isDigit, rest.dropWhile Char.isDigit)
    | rest => ([], rest)
  ["inf", "infinity", "nan"].contains (String.ofList (unsigned.map Char.toLower))
    || (!(whole ++ fraction).isEmpty && isExponent rest)
where
  /-- Whether a text is an exponent, or empty. -/
  isExponent : List Char → Bool
    | [] => true
    | c :: cs =>
      let digits := if [some '+', some '-'].contains cs.head? then cs.drop 1 else cs
      c.toLower == 'e' && !digits.isEmpty && digits.all Char.isDigit

/-- Whether a text can be asked for as a value: it is a number or a pattern. -/
def isValue (cs : List Char) : Bool := isNumber cs || Pattern.isWellFormed cs

/-- Reads a field: its name, perhaps with a value after an equals sign. What follows a second equals
sign does not count. -/
def ofText? (cs : List Char) : Option FieldDemand :=
  match Text.pieces '=' cs with
  | [] => none
  | [name] => some ⟨String.ofList name, false⟩
  | name :: value :: _ => if isValue value then some ⟨String.ofList name, true⟩ else none

end FieldDemand

/-- What a directive asks for. -/
inductive Directive where
  /-- A rule for events. -/
  | rule (rule : LogRule)
  /-- Something about spans, in which no event lies. -/
  | spansOnly
deriving DecidableEq, Repr

namespace Directive

/-- Whether a directive may begin with a character. -/
def mayBegin (c : Char) : Bool := ['-', ':', '_'].contains c || Text.isLetterOrNumeral c

/-! The parts of a directive are found in the text without the blanks around it, and are then cut
out of the whole text at the offsets at which they were found. Blanks in front of a directive
therefore move its parts, and blanks behind it belong to the last part. -/

/-- The threshold that begins at an offset; an empty one lets everything pass. -/
def thresholdFrom? (whole : List Char) (offset : Nat) : Option Threshold :=
  match Text.dropBytes? offset whole with
  | none => none
  | some [] => some (some .trace)
  | some stated => Threshold.ofText? stated

/-- The text between two offsets. -/
def between? (whole : List Char) (start stop : Nat) : Option (List Char) :=
  (Text.dropBytes? start whole).bind (Text.takeBytes? (stop - start))

/-- What follows the brackets: nothing, or a threshold. -/
def afterBrackets? (whole : List Char) (target : Option String) (field : Option FieldDemand)
    (namesSpan : Bool) (offset : Nat) (cs : List Char) : Option Directive :=
  let stated : Option Threshold :=
    match cs with
    | [] => some (some .trace)
    | '=' :: _ => thresholdFrom? whole (offset + 1)
    | _ => none
  stated.map fun threshold =>
    if namesSpan || field.any (·.hasValue) then .spansOnly
    else .rule ⟨target, field.map (·.name), threshold⟩

/-- Reads a directive from behind its opening bracket. -/
def inBrackets? (whole : List Char) (target : Option String) (offset : Nat) (cs : List Char) :
    Option Directive :=
  let inSpan (c : Char) : Bool := c != ']' && c != '\x7b'
  let span := cs.takeWhile inSpan
  let offset := offset + Text.byteLength span + 1
  match cs.dropWhile inSpan with
  | ']' :: rest => afterBrackets? whole target none true offset rest
  | '\x7b' :: rest =>
    let name := rest.takeWhile (· != '\x7d')
    let stop := offset + Text.byteLength name
    match rest.dropWhile (· != '\x7d') with
    | '\x7d' :: ']' :: rest =>
      if name.isEmpty then none
      else
        ((between? whole offset stop).bind FieldDemand.ofText?).bind fun field =>
          afterBrackets? whole target (some field) (!span.isEmpty) (stop + 2) rest
    | _ => none
  | _ => none

/-- Reads a directive. -/
def ofText? (whole : List Char) : Option Directive :=
  match Text.trimmed whole with
  | [] => none
  | '[' :: rest => inBrackets? whole none 1 rest
  | first :: cs =>
    if !mayBegin first then none
    else
      let inName (c : Char) : Bool := c != '=' && c != '['
      let offset := Text.byteLength ((first :: cs).takeWhile inName)
      let target? : Option String := (Text.takeBytes? offset whole).map String.ofList
      match (first :: cs).dropWhile inName with
      | '=' :: _ =>
        target?.bind fun target =>
          (thresholdFrom? whole (offset + 1)).map fun threshold =>
            .rule ⟨some target, none, threshold⟩
      | '[' :: rest => target?.bind fun target => inBrackets? whole (some target) (offset + 1) rest
      | _ =>
        match Threshold.ofText? whole with
        | some threshold => some (.rule ⟨none, none, threshold⟩)
        | none => some (.rule ⟨some (String.ofList whole), none, some .trace⟩)

end Directive

/-- Rules that decide which events pass. -/
structure LogFilter where
  /-- The rules in the order in which they were stated. -/
  rules : List LogRule
deriving DecidableEq, Repr

namespace LogFilter

/-- The filter that lets every event pass up to a level. -/
def upTo (threshold : Threshold) : LogFilter := ⟨[⟨none, none, threshold⟩]⟩

/-- The filter of a run for which none is stated. -/
def standard : LogFilter := upTo (some .info)

/-- The rules among directives. -/
def rulesOf (directives : List Directive) : List LogRule :=
  directives.filterMap fun
    | .rule rule => some rule
    | .spansOnly => none

/-- Reads a filter; one without any directive lets errors pass. -/
def ofText? (text : String) : Option LogFilter :=
  match (Text.pieces ',' text.toList).filter (fun piece => !piece.isEmpty) with
  | [] => some (upTo (some .error))
  | stated =>
    (stated.mapM Directive.ofText?).map fun directives => ⟨rulesOf directives⟩

/-- The filter of a run: the stated one, or the standard one if none is stated or it cannot be
read. -/
def ofSetting (setting : Option String) : LogFilter := (setting.bind ofText?).getD standard

/-- Of a rule so far and later ones, the rule that decides. -/
def deciding : Option LogRule → List LogRule → Option LogRule
  | best, [] => best
  | none, rule :: rules => deciding (some rule) rules
  | some best, rule :: rules => deciding (some (if best.yieldsTo rule then rule else best)) rules

/-- Whether an event passes. -/
def admits (filter : LogFilter) (event : Event) : Bool :=
  match deciding none (filter.rules.filter (·.applies event)) with
  | some rule => rule.threshold.admits event.level
  | none => false

end LogFilter

end EntityForge
