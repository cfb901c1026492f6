import ShaderVariants.Compiler.Output
import ShaderVariants.Compiler.Target
import ShaderVariants.Machine

/-!
Running the compiler on one stage.
-/
namespace ShaderVariants

inductive CompilerError where
  | launch (program : Path) (reason : SystemError)
  | missingOutput (program : Path)
  | wait (program : Path) (reason : SystemError)
deriving DecidableEq, Repr

def CompilerError.message : CompilerError → String
  | .launch program reason => "unable to start " ++ program.quoted ++ ": " ++ reason.message
  | .missingOutput program => "standard output of " ++ program.quoted ++ " was not captured"
  | .wait program reason => "failed waiting for " ++ program.quoted ++ ": " ++ reason.message

/-- What a stage run leaves; there is no exit code after a signal. -/
structure StageOutput where
  text : String
  lines : Nat
  exit? : Option Int
deriving DecidableEq, Repr

namespace CompilerTarget

def arguments (stage : Stage) (path : Path) : List String :=
  [stage.flag, path.text, "-D", stage.define]

/-- Compiles the file at `path` for a stage.  A failing exit code still leaves output. -/
def run (target : CompilerTarget) (machine : Machine) (path : Path) (stage : Stage) :
    Except CompilerError StageOutput :=
  match machine.files.launch machine.environment.searchPath target.program
      (arguments stage path) with
  | .error reason => .error (.launch target.program reason)
  | .ok completion =>
      let output := CompilerOutput.ofBytes completion.output
      .ok ⟨String.ofList output.text, output.lines, completion.exit⟩

end CompilerTarget

end ShaderVariants
