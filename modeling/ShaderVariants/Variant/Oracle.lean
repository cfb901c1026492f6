import ShaderVariants.Pass
import ShaderVariants.Text.Utf8
import ShaderVariants.Variant.Settings

/-!
Oracles turn a pass and a set of keywords into the source that is compiled.

`Oracle.defines` is the usual one: it defines the keywords in front of the pass's own source.
-/
namespace ShaderVariants

structure VariantRequest where
  pass : Pass
  keywords : List String
  stage : Stage
  platform : Platform
  buildTarget : BuildTarget
deriving DecidableEq, Repr

/-- A producer of variants: which stages of a pass it knows, and the source it answers a request
with, or else the reasons why not, outermost first. -/
structure Oracle where
  supports : Pass → Stage → Bool
  materialize : VariantRequest → Except (List String) Bytes

namespace Oracle

def definitions (keywords : List String) : String :=
  String.join (keywords.map fun keyword => "#define " ++ keyword ++ "\n")

def defines : Oracle where
  supports pass stage := pass.declares stage
  materialize request :=
    if !request.platform.isGlsl then
      .error ["platform " ++ request.platform.name ++ " is not supported by the define oracle"]
    else if !request.pass.declares request.stage then
      .error ["pass '" ++ request.pass.name ++ "' has no " ++ request.stage.name ++ " program"]
    else .ok (Utf8.encode (definitions request.keywords ++ request.pass.source).toList)

end Oracle

end ShaderVariants
