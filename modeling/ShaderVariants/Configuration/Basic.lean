import ShaderVariants.Compiler.Target
import ShaderVariants.Toml.Decoding
import ShaderVariants.Toml.Document
import ShaderVariants.Variant.Settings

/-!
The configuration and its text.

`Configuration.ofText?` reads a document: every key that is absent keeps its default, and unknown
keys are ignored.  `Configuration.render` writes a document that says everything.
-/
namespace ShaderVariants

inductive CompilerKind where
  | malioc
  | malisc
  | custom
deriving DecidableEq, Repr

namespace CompilerKind

def all : List CompilerKind := [.malioc, .malisc, .custom]

def name : CompilerKind → String
  | .malioc => "malioc"
  | .malisc => "malisc"
  | .custom => "custom"

def ofName? (name : String) : Option CompilerKind :=
  all.find? (·.name = name)

end CompilerKind

/-- Which compiler to run, and where it is if it is not a known one. -/
structure CompilerSection where
  target : CompilerKind := .malioc
  customPath? : Option Path := none
deriving DecidableEq, Repr

/-- How files are watched: events of one file closer than this many milliseconds are merged. -/
structure WatchSection where
  debounce : Nat := 200
deriving DecidableEq, Repr

structure Configuration where
  compiler : CompilerSection := {}
  variant : VariantSettings := {}
  watch : WatchSection := {}
deriving DecidableEq, Repr

def CompilerSection.ofValue? (value : Toml.Value) : Option CompilerSection := do
  let fields ← value.fields?
  let usual : CompilerSection := {}
  return {
    target := ← fields.getOr 0 "target" usual.target (Toml.Value.choice? CompilerKind.ofName?)
    customPath? := ← fields.optional 1 "custom_path" Toml.Value.path? }

def VariantSettings.ofValue? (value : Toml.Value) : Option VariantSettings := do
  let fields ← value.fields?
  let usual : VariantSettings := {}
  return {
    platform :=
      ← fields.getOr 0 "platform" usual.platform (Toml.Value.choice? Platform.ofName?)
    buildTarget :=
      ← fields.getOr 1 "build_target" usual.buildTarget (Toml.Value.choice? BuildTarget.ofName?)
    versionLine := ← fields.getOr 2 "version_line" usual.versionLine Toml.Value.string?
    extension := ← fields.getOr 3 "extension" usual.extension Toml.Value.string?
    directory? := ← fields.optional 4 "temp_dir" Toml.Value.path? }

def WatchSection.ofValue? (value : Toml.Value) : Option WatchSection := do
  let fields ← value.fields?
  let usual : WatchSection := {}
  return { debounce := ← fields.getOr 0 "debounce_ms" usual.debounce Toml.Value.natural? }

namespace Configuration

def ofTable? (entries : List (String × Toml.Value)) : Option Configuration := do
  let fields := Toml.Fields.named entries
  return {
    compiler := ← fields.getOr 0 "compiler" {} CompilerSection.ofValue?
    variant := ← fields.getOr 1 "variant" {} VariantSettings.ofValue?
    watch := ← fields.getOr 2 "watch" {} WatchSection.ofValue? }

def ofText? (text : Text) : Option Configuration := do
  ofTable? (← Toml.parse? text)

def quoted (string : String) : String :=
  String.ofList (['"'] ++ string.toList.flatMap (fun c =>
    if c = '"' || c = '\\' then ['\\', c]
    else if c = '\n' then ['\\', 'n']
    else if c = '\t' then ['\\', 't']
    else if c = '\r' then ['\\', 'r']
    else if c.toNat < 0x20 || c.toNat = 0x7F then
      let digits := Nat.toDigits 16 c.toNat
      ['\\', 'u'] ++ List.replicate (4 - digits.length) '0' ++ digits
    else [c]) ++ ['"'])

def assignment (key value : String) : String :=
  key ++ " = " ++ value ++ "\n"

def render (configuration : Configuration) : String :=
  let path? (key : String) (path? : Option Path) : String :=
    match path? with
    | some path => assignment key (quoted path.text)
    | none => ""
  "[compiler]\n"
    ++ assignment "target" (quoted configuration.compiler.target.name)
    ++ path? "custom_path" configuration.compiler.customPath?
    ++ "\n[variant]\n"
    ++ assignment "platform" (quoted configuration.variant.platform.name)
    ++ assignment "build_target" (quoted configuration.variant.buildTarget.name)
    ++ assignment "version_line" (quoted configuration.variant.versionLine)
    ++ assignment "extension" (quoted configuration.variant.extension)
    ++ path? "temp_dir" configuration.variant.directory?
    ++ "\n[watch]\n"
    ++ assignment "debounce_ms" (toString configuration.watch.debounce)

/-- The compiler to run; a custom one without a path is the empty path. -/
def compilerTarget (configuration : Configuration) : CompilerTarget :=
  match configuration.compiler.target with
  | .malioc => .malioc
  | .malisc => .malisc
  | .custom => .custom (configuration.compiler.customPath?.getD ⟨""⟩)

end Configuration

end ShaderVariants
