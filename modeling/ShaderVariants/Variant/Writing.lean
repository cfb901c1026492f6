import ShaderVariants.Machine
import ShaderVariants.Variant.Preamble

/-!
Variants on disk.
-/
namespace ShaderVariants

def variantStem : String := "shrep-variant-"

namespace VariantSettings

def suffix (settings : VariantSettings) : String :=
  "." ++ settings.extension

/-- The text of a variant: the bytes as text, under the version line. -/
def patch (settings : VariantSettings) (bytes : Bytes) : Text :=
  Preamble.withVersion (Utf8.decodeLossy bytes) settings.versionLine.toList

end VariantSettings

def Machine.writeVariant (machine : Machine) (settings : VariantSettings) (bytes : Bytes) :
    Except SystemError (Path × Machine) :=
  let code := settings.patch bytes
  let directory := settings.directory?.getD machine.environment.temporaryDirectory
  match machine.files.writeTemporary directory variantStem settings.suffix (Utf8.encode code) with
  | .error reason => .error reason
  | .ok (path, files) =>
      .ok (path, { machine with files }.note (.wrote ⟨path, directory, settings.suffix, code⟩))

end ShaderVariants
