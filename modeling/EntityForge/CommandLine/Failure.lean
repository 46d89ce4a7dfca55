import EntityForge.Fault
import EntityForge.Text.Pieces

/-!
# Failures

A failure is a fault in the context in which it came up. Its report names the context first and
then, indented, what lies behind it, one cause after another and numbered if there are several.
Faults of files and of texts that cannot be read have a cause of their own behind them.
-/

set_option autoImplicit false

namespace EntityForge.CommandLine

/-- A fault with what the program was about when it came up. -/
structure Failure where
  /-- What the program was about, if that is worth to be told. -/
  context : Option String
  /-- The fault. -/
  fault : Fault

namespace Failure

/-- The messages from the outermost to the innermost. -/
def messages (failure : Failure) : List String :=
  failure.context.toList ++ failure.fault.message ::
    match failure.fault with
    | .io _ | .yaml _ | .json _ => [failure.fault.detail]
    | _ => []

/-- A cause with its number, if it has one; its further lines are as far from the margin as its
first. -/
def causeLine (number : Option Nat) (message : String) : String :=
  let margin (digits : List Char) : List Char :=
    List.replicate (5 - digits.length) ' ' ++ digits ++ [':', ' ']
  let first :=
    match number with
    | some n => margin (Nat.toDigits 10 n)
    | none => List.replicate 4 ' '
  let further := '\n' :: List.replicate first.length ' '
  match Text.pieces '\n' message.toList with
  | [] => String.ofList first
  | line :: rest =>
    String.ofList ('\n' :: (first ++ line ++ rest.flatMap fun line => further ++ line))

/-- The lines of causes, numbered if there are several. -/
def causeLines (causes : List String) : List String :=
  match causes with
  | [cause] => [causeLine none cause]
  | causes => causes.mapIdx fun index cause => causeLine (some index) cause

/-- The report of a failure. -/
def report (failure : Failure) : String :=
  match failure.messages with
  | [] => ""
  | outermost :: causes =>
    "Error: " ++ outermost
      ++ (if causes.isEmpty then "" else "\n\nCaused by:" ++ String.join (causeLines causes))
      ++ "\n"

end Failure

end EntityForge.CommandLine
