import ShaderVariants.Session

/-!
Runs of the compiler, one stage after another.

Runs share a buffer for what is printed and the reports made so far.  An `Attempt` is what becomes
of one run, and a compiler may fare differently at each stage.  On a machine as it is modelled the
attempts are those of `CompilerTarget.attempt`, and `stageReport` tells what is reported of them.
-/
namespace ShaderVariants

/-- What the compiler printed, and how it ended: with its exit code, by a signal, or with an
error. -/
structure Attempt where
  printed : Bytes
  ended : Except CompilerError (Option Int)

namespace CompilerOutput

def reset (_ : CompilerOutput) : CompilerOutput :=
  ⟨[], 0⟩

def push (output : CompilerOutput) (line : Text) : CompilerOutput :=
  if line.isEmpty then output else ⟨output.text ++ (line ++ ['\n']), output.lines + 1⟩

theorem foldl_push (lines : List Text) (output : CompilerOutput) :
    lines.foldl push output =
      let kept := lines.filter fun line => !line.isEmpty
      ⟨output.text ++ kept.flatMap (· ++ ['\n']), output.lines + kept.length⟩ := by
  induction lines generalizing output with
  | nil => simp
  | cons line lines ih =>
      rw [List.foldl_cons, ih, push]
      cases line with
      | nil => rfl
      | cons c line => simp [Nat.add_assoc, Nat.add_comm]

end CompilerOutput

def Report.ofRun (compiler : CompilerTarget) (text : Text) :
    Except CompilerError (Option Int) → Report
  | .ok exit? => .compiled (String.ofList text) exit?
  | .error error => .launchFailed (error.message ++ "\n" ++ compiler.launchHint ++ "\n")

namespace Attempt

/-- The buffer once the lines of a run have come in. -/
def collect (attempt : Attempt) (buffer : CompilerOutput) : CompilerOutput :=
  (CompilerOutput.rawLines attempt.printed).foldl
    (fun buffer line => buffer.push (CompilerOutput.decodeLine line)) buffer.reset

def report (compiler : CompilerTarget) (attempt : Attempt) : Report :=
  .ofRun compiler (CompilerOutput.ofBytes attempt.printed).text attempt.ended

/-- Nothing of an earlier run is left in the buffer. -/
theorem collect_eq (attempt : Attempt) (buffer : CompilerOutput) :
    attempt.collect buffer = .ofBytes attempt.printed := by
  rw [collect, ← List.foldl_map, CompilerOutput.foldl_push]
  simp [CompilerOutput.reset, CompilerOutput.ofBytes]

end Attempt

def runStage (compiler : CompilerTarget) (attempt : Attempt)
    (state : CompilerOutput × Reports) (stage : Stage) : CompilerOutput × Reports :=
  let buffer := attempt.collect state.1
  (buffer, state.2.insert stage (.ofRun compiler buffer.text attempt.ended))

def runStages (compiler : CompilerTarget) (attempts : Stage → Attempt) (stages : List Stage)
    (state : CompilerOutput × Reports) : CompilerOutput × Reports :=
  stages.foldl (fun state stage => runStage compiler (attempts stage) state stage) state

theorem runStage_eq (compiler : CompilerTarget) (attempt : Attempt)
    (state : CompilerOutput × Reports) (stage : Stage) :
    runStage compiler attempt state stage =
      (.ofBytes attempt.printed, state.2.insert stage (attempt.report compiler)) := by
  rw [runStage, attempt.collect_eq]
  rfl

theorem runStages_snd (compiler : CompilerTarget) (attempts : Stage → Attempt)
    (stages : List Stage) (state : CompilerOutput × Reports) :
    (runStages compiler attempts stages state).2 =
      (stages.map fun stage => (stage, (attempts stage).report compiler)).foldl
        (fun reports (stage, report) => reports.insert stage report) state.2 := by
  induction stages generalizing state with
  | nil => rfl
  | cons stage stages ih =>
      rw [runStages, List.foldl_cons, ← runStages, ih, runStage_eq]
      rfl

theorem Reports.get?_foldl_insert (report : Stage → Report) (stages : List Stage)
    (reports : Reports) (stage : Stage) :
    ((stages.map fun stage => (stage, report stage)).foldl
        (fun reports (stage, report) => reports.insert stage report) reports).get? stage =
      if stage ∈ stages then some (report stage) else reports.get? stage := by
  induction stages generalizing reports with
  | nil => rfl
  | cons first stages ih =>
      -- A stage that is run again later has the report of its last run, which is the same.
      rw [List.map_cons, List.foldl_cons, ih, Reports.get?_insert]
      by_cases later : stage ∈ stages
      · simp [later]
      · by_cases same : stage = first <;> simp [same, later]

theorem get?_runStages (compiler : CompilerTarget) (attempts : Stage → Attempt)
    (stages : List Stage) (state : CompilerOutput × Reports) (stage : Stage) :
    (runStages compiler attempts stages state).2.get? stage =
      if stage ∈ stages then some ((attempts stage).report compiler) else state.2.get? stage := by
  rw [runStages_snd]
  exact Reports.get?_foldl_insert (fun stage => (attempts stage).report compiler) ..

def CompilerTarget.attempt (target : CompilerTarget) (machine : Machine) (path : Path)
    (stage : Stage) : Attempt :=
  match machine.files.launch machine.environment.searchPath target.program
      (arguments stage path) with
  | .error reason => ⟨[], .error (.launch target.program reason)⟩
  | .ok completion => ⟨completion.output, .ok completion.exit⟩

theorem report_attempt (compiler : CompilerTarget) (machine : Machine) (path : Path)
    (stage : Stage) :
    (compiler.attempt machine path stage).report compiler =
      Session.stageReport compiler machine path stage := by
  rw [CompilerTarget.attempt, Session.stageReport, CompilerTarget.run]
  cases machine.files.launch machine.environment.searchPath compiler.program
    (CompilerTarget.arguments stage path) <;> rfl

/-- The runs on a machine make the reports of a cycle, whatever the buffer holds. -/
theorem runStages_attempt (compiler : CompilerTarget) (machine : Machine) (path : Path)
    (stages : List Stage) (buffer : CompilerOutput) :
    (runStages compiler (compiler.attempt machine path) stages (buffer, .empty)).2 =
      Reports.ofList (stages.map fun stage =>
        (stage, Session.stageReport compiler machine path stage)) := by
  simp only [runStages_snd, report_attempt]
  rfl

end ShaderVariants
