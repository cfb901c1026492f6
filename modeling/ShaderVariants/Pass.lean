import ShaderVariants.Asset
import ShaderVariants.Keyword.Group
import ShaderVariants.Keyword.Index

/-!
Passes with their keyword groups.

`Pass.ofAsset` indexes every pass of a shader and meets their keywords in one vocabulary.
-/
namespace ShaderVariants

/-- A pass that can be compiled: where it stands in its shader, its source, and the keyword groups
the source declares, each with a hint. -/
structure Pass where
  subshader : Nat
  place : Nat
  name : String
  source : String
  stages : List Stage
  groups : List Keyword.Group
  hints : List String
deriving DecidableEq, Repr

namespace Pass

def noKeywordLabel : String := "No keyword applied"

def build (subshader place : Nat) (pass : PassSource) (known : Keyword.Vocabulary) :
    Pass × Keyword.Vocabulary :=
  let (groups, known) := Keyword.index pass.source.toList known
  (⟨subshader, place, pass.name, pass.source, pass.stages, groups, groups.map (·.hint)⟩, known)

def declares (pass : Pass) (stage : Stage) : Bool :=
  pass.stages.contains stage

def optionLabel (option : String) : String :=
  if option.isEmpty then noKeywordLabel else option

def labels (group : Keyword.Group) : List String :=
  group.options.map optionLabel

/-- Indexes the passes of one subshader, the first of them at `place`. -/
def buildSubshader (subshader : Nat) :
    Nat → List PassSource → Keyword.Vocabulary → List Pass × Keyword.Vocabulary
  | _, [], known => ([], known)
  | place, pass :: rest, known =>
      let (built, known) := build subshader place pass known
      let (later, known) := buildSubshader subshader (place + 1) rest known
      (built :: later, known)

/-- Indexes subshaders, the first of them with number `subshader`. -/
def buildAll : Nat → List (List PassSource) → Keyword.Vocabulary → List Pass × Keyword.Vocabulary
  | _, [], known => ([], known)
  | subshader, passes :: rest, known =>
      let (built, known) := buildSubshader subshader 0 passes known
      let (later, known) := buildAll (subshader + 1) rest known
      (built ++ later, known)

/-- Indexes every pass of every subshader, in order. -/
def ofAsset (asset : Asset) (known : Keyword.Vocabulary) : List Pass × Keyword.Vocabulary :=
  buildAll 0 asset.subshaders known

end Pass

end ShaderVariants
