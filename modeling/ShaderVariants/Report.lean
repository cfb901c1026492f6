import ShaderVariants.Stage

/-!
What the compiler said about each stage.
-/
namespace ShaderVariants

/-- The outcome of one stage: the compiler's output and exit code, or why it did not start. -/
inductive Report where
  | compiled (text : String) (exit? : Option Int)
  | launchFailed (text : String)
deriving DecidableEq, Repr

namespace Report

def text : Report → String
  | .compiled text _ => text
  | .launchFailed text => text

def isFailure : Report → Bool
  | .compiled _ _ => false
  | .launchFailed _ => true

def exit? : Report → Option Int
  | .compiled _ exit? => exit?
  | .launchFailed _ => none

end Report

/-- At most one report for each stage. -/
structure Reports where
  vertex? : Option Report := none
  geometry? : Option Report := none
  fragment? : Option Report := none
deriving DecidableEq, Repr

namespace Reports

def empty : Reports := {}

def get? (reports : Reports) : Stage → Option Report
  | .vertex => reports.vertex?
  | .geometry => reports.geometry?
  | .fragment => reports.fragment?

def insert (reports : Reports) (stage : Stage) (report : Report) : Reports :=
  match stage with
  | .vertex => { reports with vertex? := some report }
  | .geometry => { reports with geometry? := some report }
  | .fragment => { reports with fragment? := some report }

/-- The reports in a list; the last one of a stage counts. -/
def ofList (entries : List (Stage × Report)) : Reports :=
  entries.foldl (fun reports (stage, report) => reports.insert stage report) empty

def inOrder (reports : Reports) : List (Stage × Report) :=
  Stage.all.filterMap fun stage => (reports.get? stage).map fun report => (stage, report)

def size (reports : Reports) : Nat :=
  reports.inOrder.length

def isEmpty (reports : Reports) : Bool :=
  reports.inOrder.isEmpty

theorem get?_insert (reports : Reports) (stage other : Stage) (report : Report) :
    (reports.insert stage report).get? other =
      if other = stage then some report else reports.get? other := by
  cases stage <;> cases other <;> rfl

end Reports

end ShaderVariants
