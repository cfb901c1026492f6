import ShaderVariants.Path

/-!
The offline compilers that can be run.
-/
namespace ShaderVariants

/-- Which compiler to run: one of the two known ones, or an executable given by its path. -/
inductive CompilerTarget where
  | malioc
  | malisc
  | custom (path : Path)
deriving DecidableEq, Repr

namespace CompilerTarget

def program : CompilerTarget → Path
  | .malioc => ⟨"malioc"⟩
  | .malisc => ⟨"malisc"⟩
  | .custom path => path

def display (target : CompilerTarget) : String :=
  target.program.text

def launchHint : CompilerTarget → String
  | .malioc => "Is Arm Mobile Studio installed and included in the PATH?"
  | .malisc => "Is the Mali Offline Compiler installed and included in the PATH?"
  | .custom _ => "Has the compiler location been set?"

/-- The compiler a word names: a known one, or the path of another. -/
def ofWord (word : String) : CompilerTarget :=
  if word = "malioc" then .malioc
  else if word = "malisc" then .malisc
  else .custom ⟨word⟩

end CompilerTarget

end ShaderVariants
