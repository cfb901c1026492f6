/-!
Pipeline stages and how the compiler is told about them.
-/
namespace ShaderVariants

/-- A part of the pipeline that is compiled and reported on its own. -/
inductive Stage where
  | vertex
  | geometry
  | fragment
deriving DecidableEq, Repr

namespace Stage

def all : List Stage := [.vertex, .geometry, .fragment]

def rank : Stage → Nat
  | .vertex => 0
  | .geometry => 1
  | .fragment => 2

def flag : Stage → String
  | .vertex => "-v"
  | .geometry => "-g"
  | .fragment => "-f"

def define : Stage → String
  | .vertex => "VERTEX"
  | .geometry => "GEOMETRY"
  | .fragment => "FRAGMENT"

def label : Stage → String
  | .vertex => "Vertex Shader"
  | .geometry => "Geometry Shader"
  | .fragment => "Fragment Shader"

def name : Stage → String
  | .vertex => "vertex"
  | .geometry => "geometry"
  | .fragment => "fragment"

def ofName? (name : String) : Option Stage :=
  all.find? (·.name = name)

theorem ofName?_name (stage : Stage) : ofName? stage.name = some stage := by
  cases stage <;> decide

theorem mem_all (stage : Stage) : stage ∈ all := by
  cases stage <;> decide

end Stage

end ShaderVariants
