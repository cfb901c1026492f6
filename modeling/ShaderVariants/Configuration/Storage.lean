import ShaderVariants.Configuration.Basic
import ShaderVariants.Machine

/-!
The configuration file.

`loadOrCreateIn` writes the default configuration where the path leads to no file yet, and leaves
alone the one it leads to.
-/
namespace ShaderVariants

inductive ConfigurationError where
  | noHomeDirectory
  | read (path : Path) (reason : SystemError)
  | parse (path : Path)
  | serialize (reason : String)
  | write (path : Path) (reason : SystemError)
  | createDirectory (path : Path) (reason : SystemError)
  | watch (reason : String)
deriving DecidableEq, Repr

/-- The text of an error.  Where in a configuration the reader stopped, and why, is not told. -/
def ConfigurationError.message : ConfigurationError → String
  | .noHomeDirectory => "Could not determine home directory"
  | .read path reason => "Failed to read " ++ path.quoted ++ ": " ++ reason.message
  | .parse path => "Failed to parse " ++ path.quoted
  | .serialize reason => "Failed to serialize config: " ++ reason
  | .write path reason => "Failed to write " ++ path.quoted ++ ": " ++ reason.message
  | .createDirectory path reason => "Failed to create " ++ path.quoted ++ ": " ++ reason.message
  | .watch reason => "Failed to watch files: " ++ reason

namespace Configuration

def fileName : Path := ⟨"config.toml"⟩

def directoryName : Path := ⟨".shrep"⟩

/-- The explanation on top of a new configuration file. -/
def header : String :=
  "# shrep Configuration\n" ++
  "#\n" ++
  "# [compiler] target: malioc, malisc or custom (set custom_path)\n" ++
  "# [variant] platform: gles3x or gles20 (GLSL); vulkan and metal need\n" ++
  "#           a non-GLSL variant oracle and are rejected by the default one\n" ++
  "# [variant] build_target: android, ios or standalone\n" ++
  "\n"

def defaultText : String :=
  header ++ ({} : Configuration).render

/-- The directory of the configuration file: the one the environment names, or one below the home
directory. -/
def directory (environment : Environment) : Except ConfigurationError Path :=
  match environment.configurationDirectory?.filter (fun name => !name.isEmpty) with
  | some name => .ok ⟨name⟩
  | none =>
      match environment.home? with
      | some home => .ok (home.join directoryName)
      | none => .error .noHomeDirectory

def filePath (environment : Environment) : Except ConfigurationError Path :=
  (directory environment).map (·.join fileName)

def loadFrom (files : FileSystem) (path : Path) : Except ConfigurationError Configuration :=
  match files.readText path with
  | .error reason => .error (.read path reason)
  | .ok text =>
      match ofText? text.toList with
      | some configuration => .ok configuration
      | none => .error (.parse path)

/-- Writes the default configuration into a directory, which is made if it is missing. -/
def createIn (files : FileSystem) (directory : Path) :
    Except ConfigurationError (Path × FileSystem) :=
  let path := directory.join fileName
  match files.makeDirectories directory with
  | .error reason => .error (.createDirectory directory reason)
  | .ok files =>
      match files.write path (Utf8.encode defaultText.toList) with
      | .error reason => .error (.write path reason)
      | .ok files => .ok (path, files)

/-- Reads the configuration in a directory, after writing the default one if there is none. -/
def loadOrCreateIn (files : FileSystem) (directory : Path) :
    Except ConfigurationError (Configuration × FileSystem) := do
  let path := directory.join fileName
  let files ←
    if files.hasPath path then .ok files
    else (createIn files directory).map (·.2)
  return (← loadFrom files path, files)

def load (machine : Machine) : Except ConfigurationError (Configuration × Machine) := do
  let (configuration, files) ← loadOrCreateIn machine.files (← directory machine.environment)
  return (configuration, { machine with files })

def create (machine : Machine) : Except ConfigurationError (Path × Machine) := do
  let (path, files) ← createIn machine.files (← directory machine.environment)
  return (path, { machine with files })

end Configuration

end ShaderVariants
