import ShaderVariants.WatchMode

/-!
The program itself.

It reads the files that a command line can touch into a machine, lets the library work on that, and
writes back what has changed.  It has no means to start other programs, so a compiler it finds is
refused.
-/
namespace ShaderVariants.Shell

/-- The number of the system error that tells of a directory. -/
def directoryCode : UInt32 := 21

/-- What is at a path, if anything is. -/
def node? (path : Path) : IO (Option Node) := do
  match ← (IO.FS.readBinFile path.text).toBaseIO with
  | .ok contents => return some (.file contents.toList none)
  | .error (.inappropriateType _ code _) =>
      return if code = directoryCode then some .directory else none
  | .error _ => return none

/-- Takes a path and the directories around it into the files, as far as they exist. -/
def take (files : FileSystem) (path : Path) : IO FileSystem :=
  path.ancestors.reverse.foldlM (fun files path => do
    match ← node? path with
    | some node => return if files.hasPath path then files else files.install path node
    | none => return files) files

/-- Takes in the variants that are in a directory already, from a number on. -/
partial def takeVariants (files : FileSystem) (directory : Path) (suffix : String) (number : Nat) :
    IO FileSystem := do
  let path := directory.join ⟨variantStem ++ FileSystem.sixDigits number ++ suffix⟩
  match ← node? path with
  | some node => takeVariants (files.install path node) directory suffix (number + 1)
  | none => return files

def takeAll (files : FileSystem) (paths : List Path) : IO FileSystem :=
  paths.foldlM take files

/-- The files that the manifest at a path names, if there is one. -/
def sources (files : FileSystem) (path : Path) : List Path :=
  match (files.readText path).toOption.bind fun text => Manifest.ofText? text.toList with
  | some manifest =>
      manifest.subshaders.flatten.filterMap fun pass =>
        pass.source?.map (Manifest.base path).join
  | none => []

def takeShader (files : FileSystem) (path : Path) : IO FileSystem := do
  let files ← take files path
  if Asset.isManifest path then takeAll files (sources files path) else return files

def shader? : Invocation → Option Path
  | .keywords shader => some shader
  | .report options | .watch options => some options.shader
  | .help | .initConfig => none

def environment : IO Environment := do
  let home? ← IO.getEnv "HOME"
  let temporary? ← IO.getEnv "TMPDIR"
  let search? ← IO.getEnv "PATH"
  return {
    searchPath := ((search?.getD "").toList.splitOn ':').map fun name => ⟨String.ofList name⟩
    home? := home?.map Path.mk
    configurationDirectory? := ← IO.getEnv "SHREP_CONFIG_DIR"
    temporaryDirectory := ⟨temporary?.getD "/tmp"⟩ }

def machine (invocation : Invocation) : IO Machine := do
  let environment ← environment
  let here : Path := ⟨(← IO.currentDir).toString⟩
  let files := FileSystem.install {} here .directory
  let files := { files with workingDirectory := (files.resolve here).toOption.getD [] }
  let configured := (Configuration.directory environment).toOption.toList
  let files ← takeAll files (configured ++ configured.map (·.join Configuration.fileName))
  let files ← (shader? invocation).toList.foldlM takeShader files
  let settings := match Configuration.load { environment, files } with
    | .ok (configuration, _) => configuration.variant
    | .error _ => {}
  let directory := settings.directory?.getD environment.temporaryDirectory
  let files ← takeVariants (← take files directory) directory settings.suffix 0
  return { environment, files }

/-- Whether a location holds the same in both file systems. -/
def isUnchanged (before after : FileSystem) (location : Location) : Bool :=
  match before.node? location, after.node? location with
  | some (.directory _), some (.directory _) => true
  | some (.file old _), some (.file new _) => old = new
  | _, _ => false

def writeBack (before after : FileSystem) : IO Unit := do
  for (location, node) in after.nodes.reverse do
    if !isUnchanged before after location then
      let path := (FileSystem.pathOf location).text
      match node with
      | .directory _ => IO.FS.createDirAll path
      | .file contents _ => IO.FS.writeBinFile path ⟨contents.toArray⟩

/-- The change of a watched file since it was last taken in. -/
def changeOf? (files : FileSystem) (path : Path) : IO (Option Edit) := do
  match ← node? path with
  | some (.file contents program?) =>
      if (files.read path).toOption = some contents then return none
      return some (.replace path (.file contents program?))
  | _ => return none

def look (state : WatchMode.State) : IO (WatchMode.State × List WatchEvent) := do
  let watched := state.watcher.configurationFile?.toList ++ state.watcher.shaderPaths
  let now ← IO.monoMsNow
  watched.foldlM (fun (state, batch) path => do
    let files ← takeAll state.machine.files path.parent?.toList
    let state := { state with machine := { state.machine with files } }
    match ← changeOf? state.machine.files path with
    | some change =>
        match WatchMode.edit now change state with
        | .ok (state, events) => return (state, batch ++ events)
        | .error _ => return (state, batch)
    | none => return (state, batch)) (state, [])

/-- Prints a text at once. -/
def display (text : String) : IO Unit := do
  IO.print text
  (← IO.getStdout).flush

/-- Looks at the files again and again, and runs a cycle after each change. -/
partial def follow (setup : WatchMode.Setup) (state : WatchMode.State) : IO Unit := do
  IO.sleep 100
  let (state, batch) ← look state
  let before := state.machine.files
  let files ← if batch.isEmpty then pure before else takeShader before setup.options.shader
  let state := { state with machine := { state.machine with files } }
  let (state, reaction) := WatchMode.iterate setup batch state
  writeBack files state.machine.files
  match reaction with
  | .cycle output => Shell.display output
  | .cycleFailed error | .refreshFailed error => IO.eprintln error.message
  | .idle => pure ()
  follow setup state

def finish (arguments : List String) (machine : Machine) : IO UInt32 := do
  let exit := Application.process arguments machine
  writeBack machine.files exit.machine.files
  Shell.display exit.output
  IO.eprint exit.errors
  return UInt32.ofNat exit.code

end ShaderVariants.Shell

open ShaderVariants in
def main (arguments : List String) : IO UInt32 := do
  match CommandLine.parse arguments with
  | .error _ => Shell.finish arguments {}
  | .ok (.watch options) =>
      let machine ← Shell.machine (.watch options)
      match WatchMode.start .defines options machine with
      | (_, none) => Shell.finish arguments machine
      | (run, some (setup, state)) =>
          Shell.writeBack machine.files run.machine.files
          Shell.display run.output
          Shell.follow setup state
          return 0
  | .ok invocation => Shell.finish arguments (← Shell.machine invocation)
