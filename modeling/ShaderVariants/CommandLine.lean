import ShaderVariants.Command
import ShaderVariants.Text.Basic

/-!
The command line.

`CommandLine.parse` reads the arguments from left to right and reports the first that cannot stand
where it is; only then is a missing shader noticed.
-/
namespace ShaderVariants

def usage : String :=
  "Usage:\n" ++
  "  shrep keywords <shader>\n" ++
  "  shrep report <shader> [--pass N] [--select GROUP=OPTION]... [--compiler malioc|malisc|PATH]\n" ++
  "  shrep watch <shader> [--pass N] [--select GROUP=OPTION]... [--compiler malioc|malisc|PATH]\n" ++
  "  shrep init-config\n" ++
  "\n" ++
  "<shader> is a .toml manifest or a bare shader source file.\n" ++
  "Set RUST_LOG=debug for detailed logging."

inductive UsageError where
  | missingSubcommand
  | unknownSubcommand (name : String)
  | missingShader
  | missingValue (option : String)
  | invalidValue (option value : String)
  | unexpectedArgument (argument : String)
deriving DecidableEq, Repr

def UsageError.message : UsageError → String
  | .missingSubcommand => "missing subcommand"
  | .unknownSubcommand name => "unknown subcommand '" ++ name ++ "'"
  | .missingShader => "missing shader path"
  | .missingValue option => "option '" ++ option ++ "' needs a value"
  | .invalidValue option value => "invalid value '" ++ value ++ "' for '" ++ option ++ "'"
  | .unexpectedArgument argument => "unexpected argument '" ++ argument ++ "'"

/-- What to compile: a shader, the pass of it, the options to choose in order, and the compiler. -/
structure CycleOptions where
  shader : Path
  pass? : Option Nat := none
  selections : List (Nat × Nat) := []
  compiler? : Option CompilerTarget := none
deriving DecidableEq, Repr

namespace CycleOptions

/-- The commands that choose the pass and the options; they are given again after each refresh. -/
def selectionCommands (options : CycleOptions) : List Command :=
  (options.pass?.map Command.selectPass).toList ++
    options.selections.map fun (group, option) => .selectOption group option

def setupCommands (options : CycleOptions) : List Command :=
  (options.compiler?.map Command.setCompiler).toList ++
    .selectShader options.shader :: options.selectionCommands

end CycleOptions

inductive Invocation where
  | help
  | initConfig
  | keywords (shader : Path)
  | report (options : CycleOptions)
  | watch (options : CycleOptions)
deriving DecidableEq, Repr

namespace CommandLine

/-- One more than the largest position that can be asked for. -/
def indexBound : Nat := Nat.pow 2 64

def index (option value : String) : Except UsageError Nat :=
  match Text.unsigned? indexBound value.toList with
  | some index => .ok index
  | none => .error (.invalidValue option value)

/-- The value of an option that takes a group and a choice in it, with `=` between them. -/
def selection (option value : String) : Except UsageError (Nat × Nat) :=
  let chosen? : Option (Nat × Nat) := do
    let (group, choice) ← Text.cut? ['='] value.toList
    let group ← Text.unsigned? indexBound (Text.trim group)
    let choice ← Text.unsigned? indexBound (Text.trim choice)
    return (group, choice)
  match chosen? with
  | some chosen => .ok chosen
  | none => .error (.invalidValue option value)

structure Draft where
  shader? : Option Path := none
  pass? : Option Nat := none
  selections : List (Nat × Nat) := []
  compiler? : Option CompilerTarget := none
deriving DecidableEq, Repr

inductive Switch where
  | pass
  | select
  | compiler
deriving DecidableEq, Repr

def Switch.ofArgument? (argument : String) : Option Switch :=
  if argument = "--pass" || argument = "-p" then some .pass
  else if argument = "--select" || argument = "-s" then some .select
  else if argument = "--compiler" || argument = "-c" then some .compiler
  else none

def Draft.apply (draft : Draft) (switch : Switch) (option value : String) :
    Except UsageError Draft :=
  match switch with
  | .pass => (index option value).map fun pass => { draft with pass? := some pass }
  | .select =>
      (selection option value).map fun chosen =>
        { draft with selections := draft.selections ++ [chosen] }
  | .compiler => .ok { draft with compiler? := some (CompilerTarget.ofWord value) }

def cycleArguments (draft : Draft) : List String → Except UsageError CycleOptions
  | [] =>
      match draft.shader? with
      | some shader => .ok ⟨shader, draft.pass?, draft.selections, draft.compiler?⟩
      | none => .error .missingShader
  | argument :: rest =>
      match Switch.ofArgument? argument with
      | some switch =>
          match rest with
          | [] => .error (.missingValue argument)
          | value :: rest =>
              -- Even an argument that looks like an option is a value here.
              match draft.apply switch argument value with
              | .ok draft => cycleArguments draft rest
              | .error error => .error error
      | none =>
          if argument.toList.head? = some '-' || draft.shader?.isSome then
            .error (.unexpectedArgument argument)
          else cycleArguments { draft with shader? := some ⟨argument⟩ } rest

def parse : List String → Except UsageError Invocation
  | [] => .error .missingSubcommand
  | subcommand :: rest =>
      if subcommand = "keywords" then
        match rest with
        | [] => .error .missingShader
        | [shader] => .ok (.keywords ⟨shader⟩)
        | _ :: extra :: _ => .error (.unexpectedArgument extra)
      else if subcommand = "report" then (cycleArguments {} rest).map .report
      else if subcommand = "watch" then (cycleArguments {} rest).map .watch
      else if subcommand = "init-config" then .ok .initConfig
      else if subcommand = "help" || subcommand = "-h" || subcommand = "--help" then .ok .help
      else .error (.unknownSubcommand subcommand)

end CommandLine

end ShaderVariants
