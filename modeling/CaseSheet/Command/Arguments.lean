import CaseSheet.Config
import CaseSheet.Report.Export
import CaseSheet.Sheet.Sample
/-!
# The command line

The arguments of the program as a command with its options. An option stands behind two dashes by
name, or behind one by letter, and letters may be run together; a value follows it, directly, behind
an equals sign or as the next argument. Everything behind two dashes alone is an operand. Only
options that list something may be given twice.
-/

namespace CaseSheet.Command

/-- Why arguments make up no command. -/
inductive Refusal where
  | usage
  /-- The arguments ask for help. -/
  | help
deriving DecidableEq, Repr

/-- An option of the command line. -/
structure OptionKind where
  name : String
  letter : Option Char
  takesValue : Bool
  repeats : Bool
deriving DecidableEq, Repr

namespace OptionKind

/-- An option with a value. -/
def valued (name : String) (letter : Option Char) : OptionKind :=
  { name, letter, takesValue := true, repeats := false }

/-- An option with a value that may be given any number of times. -/
def listed (name : String) (letter : Option Char) : OptionKind :=
  { name, letter, takesValue := true, repeats := true }

/-- An option without a value. -/
def flag (name : String) (letter : Option Char) : OptionKind :=
  { name, letter, takesValue := false, repeats := false }

def help : OptionKind := flag "help" (some 'h')
def verbose : OptionKind := flag "verbose" (some 'v')
def testId : OptionKind := listed "test-id" (some 't')
def config : OptionKind := valued "config" (some 'c')

end OptionKind

/-! ## Scanning -/

/-- The arguments read so far. -/
structure Scan where
  /-- An option whose value comes next. -/
  pending : Option OptionKind
  /-- Whether all further arguments are operands. -/
  literal : Bool
  /-- The options with their values, in order. -/
  given : List (OptionKind × String)
  operands : List String

namespace Scan

def start : Scan := { pending := none, literal := false, given := [], operands := [] }

def give (s : Scan) (o : OptionKind) (value : String) : Scan :=
  { s with pending := none, given := s.given ++ [(o, value)] }

/-- Reads letters of options that are run together. -/
def letters (kinds : List OptionKind) : Scan → List Char → Except Refusal Scan
  | s, [] => .ok s
  | s, c :: r =>
    match kinds.find? fun o => o.letter == some c with
    | none => .error .usage
    | some o =>
      if o = .help then .error .help
      else if o.takesValue then
        match r with
        | [] => .ok { s with pending := some o }
        | '=' :: value => .ok (s.give o (String.ofList value))
        | value => .ok (s.give o (String.ofList value))
      else letters kinds (s.give o "") r

/-- Reads the name of an option, perhaps with its value. -/
def named (kinds : List OptionKind) (s : Scan) (text : List Char) : Except Refusal Scan :=
  let name := text.takeWhile (· != '=')
  match kinds.find? fun o => o.name.toList == name with
  | none => .error .usage
  | some o =>
    match text.dropWhile (· != '='), o.takesValue with
    | _ :: value, true => .ok (s.give o (String.ofList value))
    | _ :: _, false => .error .usage
    | [], true => .ok { s with pending := some o }
    | [], false => if o = .help then .error .help else .ok (s.give o "")

/-- Reads an argument. -/
def step (kinds : List OptionKind) (s : Scan) (arg : String) : Except Refusal Scan :=
  if s.literal then .ok { s with operands := s.operands ++ [arg] }
  else match s.pending, arg.toList with
    | some _, '-' :: _ :: _ => .error .usage
    | some o, _ => .ok (s.give o arg)
    | none, ['-', '-'] => .ok { s with literal := true }
    | none, '-' :: '-' :: text => s.named kinds text
    | none, '-' :: c :: r => s.letters kinds (c :: r)
    | none, _ => .ok { s with operands := s.operands ++ [arg] }

/-- Whether an option has been given more often than it may be. -/
def repeatsTooOften (s : Scan) : Bool :=
  s.given.any fun g => !g.1.repeats && 1 < s.given.countP fun g' => g'.1 == g.1

/-- Reads all arguments. -/
def all (kinds : List OptionKind) (args : List String) : Except Refusal Scan := do
  let s ← args.foldlM (step kinds) start
  if s.pending.isSome || s.repeatsTooOften then .error .usage else return s

/-- Whether an option has been given. -/
def has (s : Scan) (o : OptionKind) : Bool := s.given.any fun g => g.1 == o

/-- The value of an option. -/
def value? (s : Scan) (o : OptionKind) : Option String :=
  (s.given.find? fun g => g.1 == o).map (·.2)

/-- All values of an option. -/
def values (s : Scan) (o : OptionKind) : List String :=
  (s.given.filter fun g => g.1 == o).map (·.2)

/-- The value of an option that is a path, which must not be empty. -/
def path? (s : Scan) (o : OptionKind) : Except Refusal (Option String) :=
  match s.value? o with
  | some "" => .error .usage
  | v => .ok v

/-- The only operand, a path that must not be empty; `default` stands in for it. -/
def operand (s : Scan) (default : Option String) : Except Refusal String :=
  match s.operands, default with
  | [path], _ => if path.isEmpty then .error .usage else .ok path
  | [], some path => .ok path
  | _, _ => .error .usage

end Scan

/-! ## Commands -/

/-- Options of a run. -/
structure RunOptions where
  testIds : List String
  format : Report.ExportFormat
  /-- Whether results are saved. -/
  save : Bool
  /-- Whether all payloads are shown. -/
  verbose : Bool
deriving DecidableEq, Repr

/-- What the program is asked to do. -/
inductive Request where
  /-- Runs the case files at a path, or only lists their cases. -/
  | run (path : String) (config : Option String) (overrides : Config.Overrides)
      (options : RunOptions) (listOnly : Bool)
  /-- Shows how cases are understood. -/
  | inspect (path : String) (config : Option String) (testIds : List String)
  /-- Writes the sample sheet. -/
  | init (path : String) (replace : Bool)
deriving DecidableEq, Repr

/-- A number of 64 bits, perhaps with a plus sign. -/
def natOf? (s : String) : Option Nat :=
  let ds := match s.toList with
    | '+' :: r => r
    | r => r
  if ds.isEmpty || !ds.all Digits.isDigit then none
  else (some (Digits.toNat ds)).filter (· < 2 ^ 64)

/-- The export format of a name. -/
def formatOf? : String → Option Report.ExportFormat
  | "json" => some .json
  | "csv" => some .csv
  | "both" => some .both
  | _ => none

/-- The value of an option that must be understood if it is given. -/
def understood {α : Type} (read : String → Option α) : Option String → Except Refusal (Option α)
  | none => .ok none
  | some s => match read s with
    | some a => .ok (some a)
    | none => .error .usage

/-- The options of each command. -/
def runKinds : List OptionKind := [.help, .verbose, .testId, .config,
  .valued "base-url" (some 'b'), .valued "format" (some 'f'), .valued "out-dir" (some 'o'),
  .valued "delay-ms" none, .flag "no-save" none, .flag "list-cases" none]

def inspectKinds : List OptionKind := [.help, .verbose, .testId, .config]

def initKinds : List OptionKind := [.help, .verbose, .flag "force" none]

/-- The run that arguments ask for. -/
def readRun (verbose : Bool) (args : List String) : Except Refusal Request := do
  let s ← Scan.all runKinds args
  let path ← s.operand none
  let config ← s.path? .config
  let resultsDir ← s.path? (.valued "out-dir" (some 'o'))
  let delayMs ← understood natOf? (s.value? (.valued "delay-ms" none))
  let format ← understood formatOf? (s.value? (.valued "format" (some 'f')))
  let overrides : Config.Overrides :=
    { baseUrl := s.value? (.valued "base-url" (some 'b')), delayMs, resultsDir }
  let options : RunOptions :=
    { testIds := s.values .testId
      format := format.getD .both
      save := !s.has (.flag "no-save" none)
      verbose := verbose || s.has .verbose }
  return .run path config overrides options (s.has (.flag "list-cases" none))

/-- The inspection that arguments ask for. -/
def readInspect (args : List String) : Except Refusal Request := do
  let s ← Scan.all inspectKinds args
  let path ← s.operand none
  let config ← s.path? .config
  return .inspect path config (s.values .testId)

/-- The writing of the sample sheet that arguments ask for. -/
def readInit (args : List String) : Except Refusal Request := do
  let s ← Scan.all initKinds args
  let path ← s.operand (some Sheet.sampleFileName)
  return .init path (s.has (.flag "force" none))

/-- What arguments ask for. In front of the command there may be the option for verbose output. -/
def Request.read (verbose : Bool) : List String → Except Refusal Request
  | [] => .error .usage
  | arg :: args =>
    match arg with
    | "run" => readRun verbose args
    | "inspect" => readInspect args
    | "init" => readInit args
    | "help" => .error .help
    | arg =>
      match Scan.start.step [.help, .verbose] arg with
      | .error e => .error e
      | .ok s =>
        if !s.operands.isEmpty || s.literal || s.repeatsTooOften || (verbose && s.has .verbose) then
          .error .usage
        else read (verbose || s.has .verbose) args

end CaseSheet.Command
