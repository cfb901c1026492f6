import ShaderVariants.Application
import ShaderVariants.Watcher

/-!
Watch mode: a session that follows the edits of its files.

`start` runs the first cycle and begins to watch.  `iterate` is one turn of the loop: it handles
the messages that have come in since the last turn, all at once.
-/
namespace ShaderVariants.WatchMode

/-- What stays the same while watching. -/
structure Setup where
  oracle : Oracle
  options : CycleOptions
  configurationFile? : Option Path
  debounce : Nat

structure State where
  session : Session
  watcher : Watcher
  machine : Machine

inductive Reaction where
  | idle
  | refreshFailed (error : SessionError)
  | cycleFailed (error : SessionError)
  | cycle (output : String)
deriving DecidableEq, Repr

/-- The files of the selected shader, canonical where they exist. -/
def shaderPaths (session : Session) (files : FileSystem) : List Path :=
  match session.shader? with
  | some shader => shader.watchedPaths.map files.canonical
  | none => []

def watcherFor (setup : Setup) (session : Session) (files : FileSystem) : Watcher :=
  .new files setup.configurationFile? (shaderPaths session files) setup.debounce

/-- The first cycle, and the state in which watching begins unless it fails. -/
def start (oracle : Oracle) (options : CycleOptions) (machine : Machine) :
    Run × Option (Setup × State) :=
  match Configuration.load machine with
  | .error error => (⟨"", some (.configuration error), machine⟩, none)
  | .ok (configuration, machine) =>
      let (step, output) := Application.startCycle oracle options configuration machine
      let run := Application.runOfStep step output
      match step.outcome with
      | .error _ => (run, none)
      | .ok () =>
          let setup : Setup := {
            oracle, options
            configurationFile? := (Configuration.filePath machine.environment).toOption
            debounce := configuration.watch.debounce }
          let watcher := watcherFor setup step.session step.machine.files
          (run, some (setup, ⟨step.session, watcher, step.machine⟩))

def newConfiguration? (batch : List WatchEvent) : Option Configuration :=
  batch.foldl (fun last? event =>
    match event with
    | .configurationChanged configuration => some configuration
    | _ => last?) none

def shaderChanged (batch : List WatchEvent) : Bool :=
  batch.any fun
    | .shaderChanged _ => true
    | _ => false

/-- The session with a new configuration; a compiler given on the command line stays. -/
def applyConfiguration (options : CycleOptions) (configuration : Configuration)
    (session : Session) : Session :=
  let session := session.setSettings configuration.variant
  if options.compiler?.isNone then session.setCompiler configuration.compilerTarget else session

/-- Reads the shader again and makes the choices of the command line once more. -/
def refresh (setup : Setup) (session : Session) (machine : Machine) : Session.Step :=
  session.dispatchAll setup.oracle (.refresh :: setup.options.selectionCommands) machine

/-- Keeps the watcher, or starts a new one if the files of the shader are others now.  The system is
taken to allow that; `iterateWith` is a turn where it may refuse. -/
def followFiles (setup : Setup) (watcher : Watcher) (session : Session) (files : FileSystem) :
    Watcher :=
  let current := (shaderPaths session files).map Path.components
  if current = watcher.shaderPaths.map Path.components then watcher
  else watcherFor setup session files

def cycle (setup : Setup) (state : State) : State × Reaction :=
  let (step, output) := Application.compileAndPrint setup.oracle state.session state.machine
  let state := { state with session := step.session, machine := step.machine }
  match step.outcome with
  | .ok () => (state, .cycle output)
  | .error error => (state, .cycleFailed error)

def iterate (setup : Setup) (batch : List WatchEvent) (state : State) : State × Reaction :=
  let changed? := newConfiguration? batch
  let session :=
    match changed? with
    | some configuration => applyConfiguration setup.options configuration state.session
    | none => state.session
  let state := { state with session }
  if shaderChanged batch then
    -- The new configuration stays even if the shader cannot be read again.
    let step := refresh setup state.session state.machine
    let state := { state with session := step.session, machine := step.machine }
    match step.outcome with
    | .error error => (state, .refreshFailed error)
    | .ok () =>
        let watcher := followFiles setup state.watcher state.session state.machine.files
        cycle setup { state with watcher }
  else if changed?.isSome then cycle setup state
  else (state, .idle)

/-- The state and the messages after an edit at time `now`, unless the system refuses it. -/
def edit (now : Nat) (change : Edit) (state : State) :
    Except SystemError (State × List WatchEvent) := do
  let before := state.machine.files
  let after ← before.apply change
  let (watcher, events) := state.watcher.observe now before after change
  return ({ state with watcher, machine := { state.machine with files := after } }, events)

end ShaderVariants.WatchMode
