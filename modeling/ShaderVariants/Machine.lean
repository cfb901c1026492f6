import ShaderVariants.FileSystem.Creation
import ShaderVariants.FileSystem.Launch
import ShaderVariants.Variant.Oracle

/-!
The machine a session runs on: its files, its environment, and a record of what was done on it.
-/
namespace ShaderVariants

structure Environment where
  searchPath : List Path := []
  home? : Option Path := none
  configurationDirectory? : Option String := none
  temporaryDirectory : Path := ⟨"/tmp"⟩
deriving DecidableEq, Repr

/-- A variant written to a file: where it went, the directory it was meant for, the end of its
name, and its code. -/
structure VariantFile where
  path : Path
  directory : Path
  suffix : String
  code : Text
deriving DecidableEq, Repr

inductive Activity where
  | asked (request : VariantRequest)
  | wrote (file : VariantFile)
  | launched (program : Path) (arguments : List String)
deriving DecidableEq, Repr

/-- A machine, with what was done on it so far, in order. -/
structure Machine where
  environment : Environment := {}
  files : FileSystem := {}
  activity : List Activity := []

namespace Machine

def note (machine : Machine) (activity : Activity) : Machine :=
  { machine with activity := machine.activity ++ [activity] }

def variants (machine : Machine) : List VariantFile :=
  machine.activity.filterMap fun
    | .wrote file => some file
    | _ => none

def requests (machine : Machine) : List VariantRequest :=
  machine.activity.filterMap fun
    | .asked request => some request
    | _ => none

end Machine

end ShaderVariants
