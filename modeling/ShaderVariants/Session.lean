import ShaderVariants.Compiler.Run
import ShaderVariants.Report
import ShaderVariants.Selection
import ShaderVariants.Variant.Writing

/-!
Sessions: everything that follows from the selected shader.

Every operation returns the session it leaves, also when it fails.  `compile` runs one
compile-and-report cycle; it is the only one that changes the machine.
-/
namespace ShaderVariants

inductive SessionError where
  | noShader
  | noPass
  | passOutOfRange (index count : Nat)
  | selection (error : SelectionError)
  | materialize (reasons : List String)
  | temporaryFile (reason : SystemError)
  | asset (error : AssetError)
deriving DecidableEq, Repr

namespace SessionError

def message : SessionError → String
  | .noShader => "no shader selected"
  | .noPass => "no pass selected"
  | .passOutOfRange index count => s!"pass {index} is out of range ({count} passes)"
  | .selection error => error.message
  | .materialize reasons => "failed to materialize variant: " ++ String.intercalate ": " reasons
  | .temporaryFile reason => "failed to write variant file: " ++ reason.message
  | .asset error => error.message

def cause? : SessionError → Option SystemError
  | .temporaryFile reason => some reason
  | .asset error => error.cause?
  | _ => none

end SessionError

/-- The selected shader with its passes and keywords, the choices made, the reports of the last
cycle, and how to compile. -/
structure Session where
  compiler : CompilerTarget
  settings : VariantSettings
  shader? : Option Asset := none
  passes : List Pass := []
  vocabulary : Keyword.Vocabulary := .empty
  selection : Selection := .empty
  reports : Reports := .empty
deriving DecidableEq, Repr

namespace Session

def new (compiler : CompilerTarget) (settings : VariantSettings) : Session :=
  { compiler, settings }

def withShader (session : Session) (shader? : Option Asset) : Session :=
  match shader? with
  | none => { session with shader? := none, passes := [], vocabulary := .empty }
  | some shader =>
      let (passes, vocabulary) := Pass.ofAsset shader .empty
      { session with shader? := some shader, passes, vocabulary }

/-- Whether a shader, or none, is what is selected already. -/
def hasShader (session : Session) (shader? : Option Asset) : Bool :=
  match session.shader?, shader? with
  | some current, some shader => current.isSame shader
  | none, none => true
  | _, _ => false

/-- Switches to a shader, or to none: reports are dropped and the first pass becomes active.
Nothing happens when it is selected already; the answer tells whether anything did. -/
def selectShader (session : Session) (shader? : Option Asset) : Session × Bool :=
  if session.hasShader shader? then (session, false)
  else
    let changed := { session with reports := .empty, selection := .empty }.withShader shader?
    if changed.passes.isEmpty then (changed, true)
    else ({ changed with selection := changed.selection.selectPass 0 changed.passes true }, true)

/-- Reads the shader again.  The active pass stays, or becomes the last one if there are fewer now;
its choices start over. -/
def refresh (session : Session) (files : FileSystem) : Session × Except SessionError Unit :=
  match session.shader? with
  | none => (session, .error .noShader)
  | some shader =>
      match shader.reload files with
      | .error error => (session, .error (.asset error))
      | .ok reloaded =>
          -- The reports stay: they are about what was last compiled.
          let changed := session.withShader (some reloaded)
          let selection :=
            if changed.passes.isEmpty then .empty
            else
              let index := min (changed.selection.active?.getD 0) (changed.passes.length - 1)
              changed.selection.selectPass index changed.passes true
          ({ changed with selection }, .ok ())

def selectPass (session : Session) (index : Nat) : Session × Except SessionError Unit :=
  if session.shader?.isNone then (session, .error .noShader)
  else if session.passes.length ≤ index then
    (session, .error (.passOutOfRange index session.passes.length))
  else
    ({ session with selection := session.selection.selectPass index session.passes false }, .ok ())

def activePass? (session : Session) : Option Pass :=
  session.selection.active?.bind fun index => session.passes[index]?

/-- The pass that operations on the active pass work on. -/
def requirePass (session : Session) : Except SessionError Pass :=
  if session.shader?.isNone then .error .noShader
  else
    match session.activePass? with
    | some pass => .ok pass
    | none => .error .noPass

def selectOption (session : Session) (group option : Nat) :
    Session × Except SessionError Unit :=
  match session.requirePass with
  | .error error => (session, .error error)
  | .ok pass =>
      let (selection, result) := session.selection.selectOption group option pass
      ({ session with selection }, result.mapError .selection)

def keywords (session : Session) : List String :=
  match session.activePass? with
  | some pass => session.selection.keywords pass
  | none => []

def passNames (session : Session) : List String :=
  session.passes.map (·.name)

def clearReports (session : Session) : Session :=
  { session with reports := .empty }

def setCompiler (session : Session) (compiler : CompilerTarget) : Session :=
  { session with compiler }

def setSettings (session : Session) (settings : VariantSettings) : Session :=
  { session with settings }

/-- The report of one stage: what the compiler printed, or why it did not start and what to look
after. -/
def stageReport (compiler : CompilerTarget) (machine : Machine) (path : Path) (stage : Stage) :
    Report :=
  match compiler.run machine path stage with
  | .ok output => .compiled output.text output.exit?
  | .error error => .launchFailed (error.message ++ "\n" ++ compiler.launchHint ++ "\n")

def noteLaunches (compiler : CompilerTarget) (machine : Machine) (path : Path)
    (stages : List Stage) : Machine :=
  stages.foldl (fun machine stage =>
    machine.note (.launched compiler.program (CompilerTarget.arguments stage path))) machine

/-- What an operation leaves, and whether it succeeded. -/
structure Step where
  session : Session
  machine : Machine
  outcome : Except SessionError Unit

/-- One compile-and-report cycle for the active pass and its choices.  The variant is produced
once, for the first stage the oracle supports, and compiled for each of them; the reports of an
earlier cycle stay only if no variant can be produced or written. -/
def compile (oracle : Oracle) (session : Session) (machine : Machine) : Step :=
  match session.requirePass with
  | .error error => ⟨session, machine, .error error⟩
  | .ok pass =>
      let session := { session with selection := session.selection.settle pass }
      match Stage.all.filter (oracle.supports pass) with
      | [] => ⟨session.clearReports, machine, .ok ()⟩
      | first :: others =>
          let request : VariantRequest := ⟨pass, session.selection.keywords pass, first,
            session.settings.platform, session.settings.buildTarget⟩
          let machine := machine.note (.asked request)
          match oracle.materialize request with
          | .error reasons => ⟨session, machine, .error (.materialize reasons)⟩
          | .ok bytes =>
              match machine.writeVariant session.settings bytes with
              | .error reason => ⟨session, machine, .error (.temporaryFile reason)⟩
              | .ok (path, machine) =>
                  let stages := first :: others
                  let reports := Reports.ofList
                    (stages.map fun stage =>
                      (stage, stageReport session.compiler machine path stage))
                  ⟨{ session with reports },
                    noteLaunches session.compiler machine path stages, .ok ()⟩

end Session

end ShaderVariants
