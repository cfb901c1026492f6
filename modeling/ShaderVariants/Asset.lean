import ShaderVariants.FileSystem.Basic
import ShaderVariants.Toml.Decoding
import ShaderVariants.Toml.Document

/-!
Shader assets: named lists of subshaders, each a list of passes.

An asset is read from a manifest, or from a bare source file, which is one subshader with one pass.
`Asset.load` reads only the files of `Asset.watchedPaths`.
-/
namespace ShaderVariants

/-- The source of one pass and the stages it declares; `path?` is the file it was read from. -/
structure PassSource where
  name : String
  source : String
  stages : List Stage
  path? : Option Path
deriving DecidableEq, Repr

/-- A shader; `origin?` is the file it was read from. -/
structure Asset where
  name : String
  origin? : Option Path
  subshaders : List (List PassSource)
deriving DecidableEq, Repr

inductive AssetError where
  | read (path : Path) (reason : SystemError)
  | parse (path : Path)
  | missingSource (manifest : Path) (pass : String)
deriving DecidableEq, Repr

/-- The text of an error.  Where in a manifest the reader stopped, and why, is not told. -/
def AssetError.message : AssetError → String
  | .read path reason => "failed to read " ++ path.quoted ++ ": " ++ reason.message
  | .parse path => "failed to parse manifest " ++ path.quoted
  | .missingSource manifest pass =>
      "pass '" ++ pass ++ "' in " ++ manifest.quoted ++ " has neither `source` nor `code`"

def AssetError.cause? : AssetError → Option SystemError
  | .read _ reason => some reason
  | _ => none

structure ManifestPass where
  name : String
  source? : Option Path
  code? : Option String
  stages? : Option (List Stage)
deriving DecidableEq, Repr

/-- A manifest: the name of the shader, and its subshaders. -/
structure Manifest where
  name? : Option String
  subshaders : List (List ManifestPass)
deriving DecidableEq, Repr

def manifestExtension : String := "toml"

/-- The stages of a pass that declares none; geometry has to be asked for. -/
def usualStages : List Stage := [.vertex, .fragment]

def ManifestPass.ofValue? (value : Toml.Value) : Option ManifestPass := do
  let fields ← value.fields?
  return {
    name := ← fields.getOr 0 "name" "" Toml.Value.string?
    source? := ← fields.omissible 1 "source" Toml.Value.path?
    code? := ← fields.omissible 2 "code" Toml.Value.string?
    stages? := ← fields.optional 3 "stages" (Toml.Value.list? Toml.Value.stage?) }

def Manifest.passesOfValue? (value : Toml.Value) : Option (List ManifestPass) := do
  (← value.fields?).getOr 0 "pass" [] (Toml.Value.list? ManifestPass.ofValue?)

def Manifest.ofText? (text : Text) : Option Manifest := do
  let fields := Toml.Fields.named (← Toml.parse? text)
  return {
    name? := ← fields.omissible 0 "name" Toml.Value.string?
    subshaders := ← fields.getOr 1 "subshader" [] (Toml.Value.list? Manifest.passesOfValue?) }

def Manifest.base (path : Path) : Path :=
  path.parent?.getD ⟨"."⟩

/-- A pass with its source, which is its code, or else read from its file. -/
def ManifestPass.load (files : FileSystem) (manifest : Path) (pass : ManifestPass) :
    Except AssetError PassSource :=
  let stages := pass.stages?.getD usualStages
  match pass.code?, pass.source? with
  | some code, _ => .ok ⟨pass.name, code, stages, none⟩
  | none, some relative =>
      let path := (Manifest.base manifest).join relative
      match files.readText path with
      | .ok source => .ok ⟨pass.name, source, stages, some path⟩
      | .error reason => .error (.read path reason)
  | none, none => .error (.missingSource manifest pass.name)

/-- The name of a shader that gives none: that of its file, without the extension. -/
def nameOfFile (path : Path) : String :=
  path.stem?.getD ""

/-- The shader that a manifest at `path` describes; the first pass that cannot be read decides the
error. -/
def Manifest.load (files : FileSystem) (path : Path) (manifest : Manifest) :
    Except AssetError Asset := do
  let subshaders ← manifest.subshaders.mapM fun passes =>
    passes.mapM (ManifestPass.load files path)
  return ⟨manifest.name?.getD (nameOfFile path), some path, subshaders⟩

namespace Asset

/-- A shader of a single pass that was never in a file. -/
def ofSource (name source : String) : Asset :=
  ⟨name, none, [[⟨name, source, usualStages, none⟩]]⟩

/-- Whether the file at `path` is a manifest. -/
def isManifest (path : Path) : Bool :=
  path.extension?.any fun extension => extension.toLower = manifestExtension

def load (files : FileSystem) (path : Path) : Except AssetError Asset :=
  match files.readText path with
  | .error reason => .error (.read path reason)
  | .ok text =>
      if isManifest path then
        match Manifest.ofText? text.toList with
        | some manifest => manifest.load files path
        | none => .error (.parse path)
      else
        let name := nameOfFile path
        .ok ⟨name, some path, [[⟨name, text, usualStages, some path⟩]]⟩

/-- Reads the shader again from where it came; one that was never in a file stays as it is. -/
def reload (files : FileSystem) (asset : Asset) : Except AssetError Asset :=
  match asset.origin? with
  | some path => load files path
  | none => .ok asset

def passes (asset : Asset) : List PassSource :=
  asset.subshaders.flatten

/-- Whether two assets are the same shader: from the same file, or of the same name if neither was
in a file. -/
def isSame (left right : Asset) : Bool :=
  match left.origin?, right.origin? with
  | some left, some right => left.agrees right
  | none, none => left.name = right.name
  | _, _ => false

/-- `paths` with `path` at the end unless it is there already. -/
def addPath (paths : List Path) (path : Path) : List Path :=
  if paths.any path.agrees then paths else paths ++ [path]

/-- The files the shader was read from, each once, its origin first. -/
def watchedPaths (asset : Asset) : List Path :=
  (asset.passes.filterMap (·.path?)).foldl addPath asset.origin?.toList

end Asset

end ShaderVariants
