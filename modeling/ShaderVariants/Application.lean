import ShaderVariants.CommandLine
import ShaderVariants.Configuration.Storage
import ShaderVariants.Listing

/-!
What the program does for a command line.
-/
namespace ShaderVariants

/-- Why a run of the program fails; the context says what it was about. -/
inductive Failure where
  | configuration (error : ConfigurationError)
  | session (context? : Option String) (error : SessionError)
deriving DecidableEq, Repr

namespace Failure

/-- The texts of the failure and of what caused it, outermost first. -/
def reasons : Failure → List String
  | .configuration error => [error.message]
  | .session context? error =>
      context?.toList ++ error.message :: (error.cause?.map SystemError.message).toList

def indented (first later text : String) : String :=
  first ++ String.intercalate ("\n" ++ later) ((text.toList.splitOn '\n').map String.ofList)

/-- The causes of a failure, numbered if there are several. -/
def causeLines (causes : List String) : String :=
  match causes with
  | [cause] => "\n" ++ indented "    " "    " cause
  | _ =>
      String.join ((Listing.numbered 0 causes).map fun (place, cause) =>
        "\n" ++ indented ("    " ++ toString place ++ ": ") "       " cause)

def report (failure : Failure) : String :=
  match failure.reasons with
  | [] => ""
  | [reason] => reason
  | reason :: causes => reason ++ "\n\nCaused by:" ++ causeLines causes

end Failure

/-- What a run leaves: what it printed, why it failed if it did, and the machine. -/
structure Run where
  output : String
  failure? : Option Failure
  machine : Machine

namespace Application

def sessionFor (configuration : Configuration) : Session :=
  .new configuration.compilerTarget configuration.variant

def cycleHeading (session : Session) : String :=
  match session.activePass? with
  | none => ""
  | some pass =>
      "Pass '" ++ pass.name ++ "' with keywords [" ++ String.intercalate " " session.keywords
        ++ "] using " ++ session.compiler.display ++ "\n"

def cycleText (session : Session) : String :=
  cycleHeading session ++ Listing.reports session.reports

/-- One cycle and what is printed after it; a cycle that fails prints nothing. -/
def compileAndPrint (oracle : Oracle) (session : Session) (machine : Machine) :
    Session.Step × String :=
  let step := session.dispatch oracle .compile machine
  match step.outcome with
  | .ok () => (step, cycleText step.session)
  | .error _ => (step, "")

def startCycle (oracle : Oracle) (options : CycleOptions) (configuration : Configuration)
    (machine : Machine) : Session.Step × String :=
  match (sessionFor configuration).dispatchAll oracle options.setupCommands machine with
  | ⟨session, machine, .ok ()⟩ => compileAndPrint oracle session machine
  | failed => (failed, "")

/-- The run that a step ends. -/
def runOfStep (step : Session.Step) (output : String) : Run :=
  match step.outcome with
  | .ok () => ⟨output, none, step.machine⟩
  | .error error => ⟨output, some (.session none error), step.machine⟩

def report (oracle : Oracle) (options : CycleOptions) (machine : Machine) : Run :=
  match Configuration.load machine with
  | .error error => ⟨"", some (.configuration error), machine⟩
  | .ok (configuration, machine) =>
      let (step, output) := startCycle oracle options configuration machine
      runOfStep step output

def keywords (oracle : Oracle) (shader : Path) (machine : Machine) : Run :=
  let step := (Session.new .malioc {}).dispatch oracle (.selectShader shader) machine
  match step.outcome with
  | .ok () => ⟨Listing.keywords step.session, none, step.machine⟩
  | .error error => ⟨"", some (.session (some ("cannot inspect " ++ shader.text)) error), step.machine⟩

def initConfig (machine : Machine) : Run :=
  match Configuration.create machine with
  | .error error => ⟨"", some (.configuration error), machine⟩
  | .ok (path, machine) => ⟨"Wrote " ++ path.text ++ "\n", none, machine⟩

/-- Does what the command line asks for; watching is started and runs its first cycle. -/
def run (oracle : Oracle) (invocation : Invocation) (machine : Machine) : Run :=
  match invocation with
  | .help => ⟨usage ++ "\n", none, machine⟩
  | .initConfig => initConfig machine
  | .keywords shader => keywords oracle shader machine
  | .report options | .watch options => report oracle options machine

/-- How a process ends: its exit code, and what it printed on its two outputs. -/
structure Exit where
  code : Nat
  output : String
  errors : String
  machine : Machine

def process (arguments : List String) (machine : Machine) : Exit :=
  match CommandLine.parse arguments with
  | .error error => ⟨2, "", "error: " ++ error.message ++ "\n\n" ++ usage ++ "\n", machine⟩
  | .ok invocation =>
      let run := run .defines invocation machine
      match run.failure? with
      | none => ⟨0, run.output, "", run.machine⟩
      | some failure => ⟨1, run.output, "Error: " ++ failure.report ++ "\n", run.machine⟩

end Application

end ShaderVariants
