import ShaderVariants.Session

/-!
Commands: what a user can ask of a session.

`dispatch` carries out one command, `dispatchAll` a list of them up to the first that fails.
-/
namespace ShaderVariants

inductive Command where
  | selectShader (path : Path)
  | deselect
  | refresh
  | selectPass (index : Nat)
  | selectOption (group option : Nat)
  | compile
  | clearReports
  | setCompiler (compiler : CompilerTarget)
deriving DecidableEq, Repr

namespace Session

def dispatch (oracle : Oracle) (command : Command) (session : Session) (machine : Machine) : Step :=
  match command with
  | .selectShader path =>
      match Asset.load machine.files path with
      | .ok shader => ⟨(session.selectShader (some shader)).1, machine, .ok ()⟩
      | .error error => ⟨session, machine, .error (.asset error)⟩
  | .deselect => ⟨(session.selectShader none).1, machine, .ok ()⟩
  | .refresh =>
      let (session, outcome) := session.refresh machine.files
      ⟨session, machine, outcome⟩
  | .selectPass index =>
      let (session, outcome) := session.selectPass index
      ⟨session, machine, outcome⟩
  | .selectOption group option =>
      let (session, outcome) := session.selectOption group option
      ⟨session, machine, outcome⟩
  | .compile => session.compile oracle machine
  | .clearReports => ⟨session.clearReports, machine, .ok ()⟩
  | .setCompiler compiler => ⟨session.setCompiler compiler, machine, .ok ()⟩

/-- Carries out commands in order and stops at the first that fails. -/
def dispatchAll (oracle : Oracle) : List Command → Session → Machine → Step
  | [], session, machine => ⟨session, machine, .ok ()⟩
  | command :: commands, session, machine =>
      match session.dispatch oracle command machine with
      | ⟨session, machine, .ok ()⟩ => dispatchAll oracle commands session machine
      | failed => failed

theorem dispatchAll_append (oracle : Oracle) (first second : List Command)
    (session : Session) (machine : Machine) :
    session.dispatchAll oracle (first ++ second) machine =
      match session.dispatchAll oracle first machine with
      | ⟨session, machine, .ok ()⟩ => session.dispatchAll oracle second machine
      | failed => failed := by
  induction first generalizing session machine with
  | nil => rfl
  | cons command rest ih =>
      simp only [List.cons_append, dispatchAll]
      cases session.dispatch oracle command machine with
      | mk session machine outcome =>
          cases outcome with
          | ok done => exact ih session machine
          | error error => rfl

end Session

end ShaderVariants
