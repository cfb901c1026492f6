import ShaderVariants.FileSystem.Basic
import ShaderVariants.Stage

/-!
Scripted compilers: programs that print what they were told to.

They stand in for an offline compiler and behave the same at every run, or differently for each
stage.
-/
namespace ShaderVariants

/-- What a scripted compiler does: repeat its arguments, repeat its file, print `output`, and end
with an exit code or, without one, by a signal. -/
structure Behaviour where
  echoesArguments : Bool := false
  echoesFile : Bool := false
  output : Bytes := []
  exit? : Option Int := some 0
deriving DecidableEq, Repr

structure Script where
  usual : Behaviour
  stages : List (Stage × Behaviour) := []
deriving DecidableEq, Repr

namespace Behaviour

def argumentLine (arguments : List String) : String :=
  let argument (place : Nat) : String := arguments[place]?.getD ""
  "flag=" ++ argument 0 ++ " opt=" ++ argument 2 ++ " define=" ++ argument 3 ++ " argc="
    ++ toString arguments.length ++ "\n"

def program (behaviour : Behaviour) : Program := fun arguments contents =>
  let repeated :=
    if behaviour.echoesArguments then Utf8.encode (argumentLine arguments).toList else []
  let copied :=
    if behaviour.echoesFile then ((arguments[1]?.bind fun path => contents ⟨path⟩).getD []) else []
  ⟨repeated ++ copied ++ behaviour.output, behaviour.exit?⟩

end Behaviour

namespace Script

def behaviourFor (script : Script) (flag : String) : Behaviour :=
  match script.stages.find? (fun entry => entry.1.flag = flag) with
  | some (_, behaviour) => behaviour
  | none => script.usual

def program (script : Script) : Program := fun arguments contents =>
  (script.behaviourFor (arguments.head?.getD "")).program arguments contents

end Script

end ShaderVariants
