import CaseSheet.FileTree
import CaseSheet.Number.Digits
/-!
# The outcome of a command

What a command leaves behind: an exit code, what it says on the two streams, and the files.
-/

namespace CaseSheet.Command

/-- Why a command stops: the wording of the problem, and of what lies behind it. -/
abbrev Failure : Type := List String

namespace Failure

/-- The wording of a failure on one line. -/
def line (f : Failure) : String := String.intercalate ": " f

/-- The lines of a cause behind their margin; a cause with a number shows it. -/
def causeText (number : Option Nat) (cause : String) : String :=
  let (lead, margin) := match number with
    | some n =>
      let digits := Digits.ofNat n
      (List.replicate (5 - digits.length) ' ' ++ digits ++ [':', ' '], List.replicate 7 ' ')
    | none => (List.replicate 4 ' ', List.replicate 4 ' ')
  String.ofList (lead ++ Text.joinWith ('\n' :: margin) (Text.splitAll '\n' cause.toList))

/-- Causes with their numbers, the first being `next`. -/
def causeTexts : Nat → List String → List String
  | _, [] => []
  | next, cause :: rest => causeText (some next) cause :: causeTexts (next + 1) rest

/-- The wording of a failure over several lines. A single cause has no number. -/
def report : Failure → String
  | [] => ""
  | [problem] => "Error: " ++ problem ++ "\n"
  | [problem, cause] => "Error: " ++ problem ++ "\n\nCaused by:\n" ++ causeText none cause ++ "\n"
  | problem :: causes =>
    "Error: " ++ problem ++ "\n\nCaused by:\n" ++ "\n".intercalate (causeTexts 0 causes) ++ "\n"

end Failure

/-- What a command leaves behind. -/
structure Outcome where
  exitCode : Nat
  out : String
  err : String
  files : FileStore

/-- What was said up to a failure or the end. -/
structure Said (α : Type) where
  text : String
  ended : Except Failure α

namespace Said

/-- Says something before the rest. -/
def after {α : Type} (text : String) (rest : Said α) : Said α :=
  { rest with text := text ++ rest.text }

def fail {α : Type} (f : Failure) : Said α := { text := "", ended := .error f }

def done {α : Type} (a : α) : Said α := { text := "", ended := .ok a }

end Said
end CaseSheet.Command
