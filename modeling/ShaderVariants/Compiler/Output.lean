import ShaderVariants.Text.Utf8

/-!
What a compiler prints, line by line.

Each line is decoded by itself; the ends of lines are unified and empty lines are dropped.
-/
namespace ShaderVariants

/-- Lines of output, each with its line break, and their number. -/
structure CompilerOutput where
  text : Text
  lines : Nat
deriving DecidableEq, Repr

namespace CompilerOutput

def lineFeed : UInt8 := 0x0A

/-- A line as text, without the line feeds and carriage returns at its end. -/
def decodeLine (line : Bytes) : Text :=
  Text.trimEnd (fun c => c = '\n' || c = '\r') (Utf8.decodeLossy line)

/-- The bytes cut behind each line feed; a last line may lack one. -/
def rawLines (bytes : Bytes) : List Bytes :=
  bytes.foldr (fun byte lines =>
    if byte = lineFeed then [byte] :: lines
    else
      match lines with
      | [] => [[byte]]
      | line :: rest => (byte :: line) :: rest) []

def ofBytes (bytes : Bytes) : CompilerOutput :=
  let lines := ((rawLines bytes).map decodeLine).filter (fun line => !line.isEmpty)
  ⟨lines.flatMap (· ++ ['\n']), lines.length⟩

end CompilerOutput

end ShaderVariants
