import ShaderVariants.Application
import ShaderVariants.Proofs.FileSystem.Creation
import ShaderVariants.Proofs.Session.Consistency

/-!
One compile-and-report cycle.

`Cycle` lists what a cycle for an active pass can come to; whatever is said of cycles is read off
from it (`cycle_compile`).
-/
namespace ShaderVariants

/-- A variant that was written is in a file of its own, and nothing else has changed. -/
theorem Machine.writeVariant_ok {machine after : Machine} {settings : VariantSettings}
    {bytes : Bytes} {path : Path}
    (done : machine.writeVariant settings bytes = .ok (path, after)) :
    ∃ files, FileSystem.Created machine.files path (Utf8.encode (settings.patch bytes)) files ∧
      after = { machine with files }.note (.wrote
        ⟨path, settings.directory?.getD machine.environment.temporaryDirectory, settings.suffix,
          settings.patch bytes⟩) := by
  unfold writeVariant at done
  simp only at done
  split at done
  · cases done
  · next written =>
      cases done
      exact ⟨_, FileSystem.created_writeTemporary written, rfl⟩

namespace Session

variable {oracle : Oracle} {session : Session} {machine : Machine} {pass : Pass}

/-- What an oracle is asked for a stage of a pass. -/
def request (session : Session) (pass : Pass) (stage : Stage) : VariantRequest :=
  ⟨pass, session.selection.keywords pass, stage, session.settings.platform,
    session.settings.buildTarget⟩

/-- What a cycle for the active pass of a session can come to. -/
inductive Cycle (oracle : Oracle) (session : Session) (pass : Pass) (machine : Machine) :
    Step → Prop where
  | unsupported (none_left : Stage.all.filter (oracle.supports pass) = []) :
      Cycle oracle session pass machine ⟨session.clearReports, machine, .ok ()⟩
  | refused {first : Stage} {others : List Stage} {reasons : List String}
      (supported : Stage.all.filter (oracle.supports pass) = first :: others)
      (made : oracle.materialize (session.request pass first) = .error reasons) :
      Cycle oracle session pass machine
        ⟨session, machine.note (.asked (session.request pass first)),
          .error (.materialize reasons)⟩
  | unwritten {first : Stage} {others : List Stage} {bytes : Bytes} {reason : SystemError}
      (supported : Stage.all.filter (oracle.supports pass) = first :: others)
      (made : oracle.materialize (session.request pass first) = .ok bytes)
      (failed : (machine.note (.asked (session.request pass first))).writeVariant session.settings
        bytes = .error reason) :
      Cycle oracle session pass machine
        ⟨session, machine.note (.asked (session.request pass first)),
          .error (.temporaryFile reason)⟩
  | compiled {first : Stage} {others : List Stage} {bytes : Bytes} {path : Path}
      {written : Machine}
      (supported : Stage.all.filter (oracle.supports pass) = first :: others)
      (made : oracle.materialize (session.request pass first) = .ok bytes)
      (done : (machine.note (.asked (session.request pass first))).writeVariant session.settings
        bytes = .ok (path, written)) :
      Cycle oracle session pass machine
        ⟨{ session with
            reports := Reports.ofList ((first :: others).map fun stage =>
              (stage, stageReport session.compiler written path stage)) },
          noteLaunches session.compiler written path (first :: others), .ok ()⟩

theorem cycle_compile (consistent : Consistent session) (active : session.activePass? = some pass)
    (oracle : Oracle) (machine : Machine) :
    Cycle oracle session pass machine (session.compile oracle machine) := by
  obtain ⟨index, chosen, found⟩ := Option.bind_eq_some_iff.mp active
  rw [compile, requirePass_of_active consistent active]
  simp only [Selection.settle_of_suits consistent.suits chosen found]
  split
  · next none_left => exact .unsupported none_left
  · next first others supported =>
      split
      · next made => exact .refused supported made
      · next made =>
          split
          · next failed => exact .unwritten supported made failed
          · next done => exact .compiled supported made done

theorem noteLaunches_eq (compiler : CompilerTarget) (machine : Machine) (path : Path)
    (stages : List Stage) :
    noteLaunches compiler machine path stages =
      { machine with
        activity := machine.activity ++ stages.map fun stage =>
          .launched compiler.program (CompilerTarget.arguments stage path) } := by
  unfold noteLaunches
  induction stages generalizing machine with
  | nil => simp
  | cons stage rest ih =>
      rw [List.foldl_cons, ih]
      simp [Machine.note]

/-- A report depends on what is on the machine, not on what was done on it before. -/
theorem stageReport_noteLaunches (compiler : CompilerTarget) (machine : Machine) (path : Path)
    (stages : List Stage) (stage : Stage) :
    stageReport compiler (noteLaunches compiler machine path stages) path stage =
      stageReport compiler machine path stage := by
  rw [noteLaunches_eq]
  rfl

theorem requests_append (machine : Machine) (activity : List Activity)
    (unasked : ∀ entry ∈ activity, ∀ request, entry ≠ .asked request) :
    ({ machine with activity := machine.activity ++ activity } : Machine).requests =
      machine.requests := by
  rw [Machine.requests, List.filterMap_append]
  refine (congrArg _ (List.filterMap_eq_nil_iff.mpr ?_)).trans (List.append_nil _)
  intro entry member
  cases entry with
  | asked request => exact absurd rfl (unasked _ member request)
  | wrote file => rfl
  | launched program arguments => rfl

/-- Whatever becomes of a cycle: the session keeps all but its reports, files are only added, and
the oracle is asked at most once, for the active pass and the choices made. -/
structure Recompiled (session : Session) (machine : Machine) (step : Step) : Prop where
  session_eq : ∃ reports, step.session = { session with reports }
  extended : FileSystem.Extends machine.files step.machine.files
  requests : step.machine.requests = machine.requests ∨
    ∃ pass first, session.activePass? = some pass ∧
      step.machine.requests = machine.requests ++ [session.request pass first]

theorem recompiled_compile (consistent : Consistent session) (oracle : Oracle)
    (machine : Machine) : Recompiled session machine (session.compile oracle machine) := by
  cases active : session.activePass? with
  | none =>
      have refused : ∃ error, session.requirePass = .error error := by
        rw [requirePass, active]
        split
        · exact ⟨_, rfl⟩
        · exact ⟨_, rfl⟩
      obtain ⟨error, refused⟩ := refused
      rw [compile, refused]
      exact ⟨⟨_, rfl⟩, .refl _, .inl rfl⟩
  | some pass =>
      have cycle := cycle_compile consistent active oracle machine
      generalize session.compile oracle machine = step at cycle
      have asked (first : Stage) :
          (machine.note (.asked (session.request pass first))).requests =
            machine.requests ++ [session.request pass first] := by
        simp [Machine.note, Machine.requests]
      cases cycle with
      | unsupported none_left => exact ⟨⟨_, rfl⟩, .refl _, .inl rfl⟩
      | @refused first => exact ⟨⟨_, rfl⟩, .refl _, .inr ⟨pass, first, active, asked first⟩⟩
      | @unwritten first => exact ⟨⟨_, rfl⟩, .refl _, .inr ⟨pass, first, active, asked first⟩⟩
      | @compiled first others bytes path written supported made done =>
          obtain ⟨files, created, rfl⟩ := Machine.writeVariant_ok done
          refine ⟨⟨_, rfl⟩, ?_, .inr ⟨pass, first, active, ?_⟩⟩
          · rw [noteLaunches_eq]
            exact created.extended
          · rw [noteLaunches_eq, ← asked first, requests_append _ _ (by simp)]
            exact requests_append _ [_] (by simp)

theorem compileAndPrint_eq (oracle : Oracle) (session : Session) (machine : Machine) :
    Application.compileAndPrint oracle session machine =
      let step := session.compile oracle machine
      (step, match step.outcome with
        | .ok () => Application.cycleText step.session
        | .error _ => "") := by
  have dispatched : session.dispatch oracle .compile machine = session.compile oracle machine := rfl
  rw [Application.compileAndPrint, dispatched]
  obtain ⟨after, last, outcome⟩ := session.compile oracle machine
  cases outcome <;> rfl

end Session

end ShaderVariants
