import ShaderVariants.Proofs.Compiler.Runs
import ShaderVariants.Proofs.Session.Compilation

/-!
What a cycle reports of the stages.

`compileWith` is a cycle in which the compiler may fare differently at each stage.  When it fares as
it does on the machine, that is `compile` (`compileWith_attempt`).
-/
namespace ShaderVariants.Session

variable {oracle : Oracle} {session : Session} {machine : Machine} {pass : Pass}
  {runs : Path → Stage → Attempt} {buffer : CompilerOutput} {bytes : Bytes} {stages : List Stage}

/-- Writes a variant and runs the compiler on it for each of `stages`.  What becomes of the runs is
told by `runs`, and `buffer` is what earlier cycles have left. -/
def compileVariant (runs : Path → Stage → Attempt) (session : Session) (bytes : Bytes)
    (stages : List Stage) (buffer : CompilerOutput) (machine : Machine) : Step :=
  match machine.writeVariant session.settings bytes with
  | .error reason => ⟨session, machine, .error (.temporaryFile reason)⟩
  | .ok (path, machine) =>
      let reports := (runStages session.compiler (runs path) stages (buffer, .empty)).2
      ⟨{ session with reports }, noteLaunches session.compiler machine path stages, .ok ()⟩

def compilePass (runs : Path → Stage → Attempt) (oracle : Oracle) (session : Session)
    (pass : Pass) (buffer : CompilerOutput) (machine : Machine) : Step :=
  match Stage.all.filter (oracle.supports pass) with
  | [] => ⟨session.clearReports, machine, .ok ()⟩
  | first :: others =>
      let machine := machine.note (.asked (session.request pass first))
      match oracle.materialize (session.request pass first) with
      | .error reasons => ⟨session, machine, .error (.materialize reasons)⟩
      | .ok bytes => compileVariant runs session bytes (first :: others) buffer machine

def compileWith (runs : Path → Stage → Attempt) (oracle : Oracle) (session : Session)
    (buffer : CompilerOutput) (machine : Machine) : Step :=
  match session.requirePass with
  | .error error => ⟨session, machine, .error error⟩
  | .ok pass =>
      compilePass runs oracle { session with selection := session.selection.settle pass } pass
        buffer machine

theorem compileWith_attempt (oracle : Oracle) (session : Session) (buffer : CompilerOutput)
    (machine : Machine) :
    session.compileWith (session.compiler.attempt (session.compile oracle machine).machine) oracle
        buffer machine = session.compile oracle machine := by
  generalize done : session.compile oracle machine = step
  revert done
  unfold compile compileWith
  cases session.requirePass with
  | error error => exact id
  | ok pass =>
      simp only [compilePass, request]
      cases Stage.all.filter (oracle.supports pass) with
      | nil => exact id
      | cons first others =>
          simp only [compileVariant]
          generalize oracle.materialize _ = made
          cases made with
          | error reasons => exact id
          | ok bytes =>
              simp only
              generalize Machine.writeVariant _ _ _ = written
              cases written with
              | error reason => exact id
              | ok written =>
                  rintro rfl
                  -- The launches that were noted do not change how a later one ends.
                  simp only [runStages_attempt, stageReport_noteLaunches]

theorem compileVariant_ok
    (succeeded : (compileVariant runs session bytes stages buffer machine).outcome = .ok ()) :
    let step := compileVariant runs session bytes stages buffer machine
    ∃ file location,
      machine.files.hasPath file.path = false ∧
      step.machine.files = machine.files.put location (.file (Utf8.encode file.code) none) ∧
      step.machine.files.read file.path = .ok (Utf8.encode file.code) ∧
      step.machine.variants = machine.variants ++ [file] ∧
      ∀ stage, step.session.reports.get? stage =
        if stage ∈ stages then some ((runs file.path stage).report session.compiler)
        else none := by
  unfold compileVariant at succeeded ⊢
  cases done : machine.writeVariant session.settings bytes with
  | error reason =>
      rw [done] at succeeded
      cases succeeded
  | ok written =>
      obtain ⟨path, written⟩ := written
      obtain ⟨files, created, rfl⟩ := Machine.writeVariant_ok done
      have missing : machine.files.resolve path = .error .notFound := created.missing
      obtain ⟨location, put⟩ := created.single
      simp only [noteLaunches_eq]
      refine ⟨⟨path, session.settings.directory?.getD machine.environment.temporaryDirectory,
        session.settings.suffix, session.settings.patch bytes⟩, location, ?_, put, created.stored,
        ?_, fun stage => ?_⟩
      · rw [FileSystem.hasPath, missing]
        rfl
      · simp [Machine.variants, Machine.note]
      · rw [get?_runStages]
        cases stage <;> rfl

theorem mem_declared {stage : Stage} :
    stage ∈ Stage.all.filter pass.declares ↔ stage ∈ pass.stages := by
  simp [Pass.declares, Stage.mem_all]

theorem inOrder_of_get? {reports : Reports} {report : Stage → Report}
    (each : ∀ stage, reports.get? stage =
      if stage ∈ pass.stages then some (report stage) else none) :
    reports.inOrder = (Stage.all.filter pass.declares).map fun stage => (stage, report stage) := by
  rw [Reports.inOrder]
  simp only [each]
  induction Stage.all with
  | nil => rfl
  | cons stage stages ih =>
      by_cases declared : stage ∈ pass.stages
      · have kept : pass.declares stage = true := List.contains_iff_mem.mpr declared
        rw [List.filterMap_cons_some (by simp [declared]; rfl), ih, List.filter_cons_of_pos kept]
        rfl
      · rw [List.filterMap_cons_none (by simp [declared]), ih,
          List.filter_cons_of_neg (by simpa [Pass.declares] using declared)]

/-- A cycle reports on the stages that the pass declares, each by its own run, and on no others.
Without a stage nothing is written or run, and for a platform without GLSL nothing is made;
otherwise a cycle that succeeds has written one new file. -/
theorem compileWith_reports (required : session.requirePass = .ok pass)
    (runs : Path → Stage → Attempt) (buffer : CompilerOutput) (machine : Machine) :
    let step := session.compileWith runs .defines buffer machine
    (pass.stages = [] →
      step.outcome = .ok () ∧ step.session.reports = .empty ∧ step.machine = machine) ∧
    (pass.stages ≠ [] → session.settings.platform.isGlsl = false →
      step.outcome = .error (.materialize ["platform " ++ session.settings.platform.name ++
        " is not supported by the define oracle"]) ∧
      step.session.reports = session.reports ∧ step.machine.files = machine.files ∧
      step.machine.variants = machine.variants) ∧
    (pass.stages ≠ [] → step.outcome = .ok () →
      ∃ file location,
        machine.files.hasPath file.path = false ∧
        step.machine.files = machine.files.put location (.file (Utf8.encode file.code) none) ∧
        step.machine.files.read file.path = .ok (Utf8.encode file.code) ∧
        step.machine.variants = machine.variants ++ [file] ∧
        (∀ stage, step.session.reports.get? stage =
          if stage ∈ pass.stages then some ((runs file.path stage).report session.compiler)
          else none) ∧
        step.session.reports.inOrder = (Stage.all.filter pass.declares).map fun stage =>
          (stage, (runs file.path stage).report session.compiler)) ∧
    session.compileWith (session.compiler.attempt (session.compile .defines machine).machine)
      .defines buffer machine = session.compile .defines machine := by
  intro step
  have unfolded : step = compilePass runs .defines
      { session with selection := session.selection.settle pass } pass buffer machine := by
    simp only [step, compileWith, required]
  rw [unfolded, compilePass]
  have supported : Stage.all.filter (Oracle.defines.supports pass) =
      Stage.all.filter pass.declares := rfl
  rw [supported]
  cases declared : Stage.all.filter pass.declares with
  | nil =>
      have silent : pass.stages = [] := by
        simp only [List.eq_nil_iff_forall_not_mem, ← mem_declared, declared]
        simp
      exact ⟨fun _ => ⟨rfl, rfl, rfl⟩, fun some_stage => absurd silent some_stage,
        fun some_stage => absurd silent some_stage, compileWith_attempt ..⟩
  | cons first others =>
      have same (stage : Stage) : stage ∈ first :: others ↔ stage ∈ pass.stages := by
        rw [← declared, mem_declared]
      have some_stage : pass.stages ≠ [] := List.ne_nil_of_mem ((same first).mp List.mem_cons_self)
      refine ⟨fun silent => absurd silent some_stage, fun _ other_platform => ?_,
        fun _ succeeded => ?_, compileWith_attempt ..⟩
      · simp [Oracle.defines, request, other_platform, Machine.note, Machine.variants]
      · simp only at succeeded ⊢
        -- The request is noted before the variant is written; files and variants are as before.
        split at succeeded
        · cases succeeded
        · next bytes made =>
            obtain ⟨file, location, missing, put, stored, variants, each⟩ :=
              compileVariant_ok succeeded
            simp only [same] at each
            have ordered := inOrder_of_get? each
            rw [declared] at ordered
            refine ⟨file, location, missing, put, stored, ?_, each, ordered⟩
            rw [variants]
            simp [Machine.variants, Machine.note]

theorem compileWith_reports_of_launch_failure :
    let shader (stages : List Stage) : Asset := ⟨"lit", none, [[⟨"forward", "", stages, none⟩]]⟩
    let session (stages : List Stage) (platform : Platform) : Session :=
      { ((new .malioc { platform }).selectShader (some (shader stages))).1 with
        reports := { geometry? := some (.compiled "earlier" none) } }
    let runs (_ : Path) : Stage → Attempt
      | .vertex => ⟨Utf8.encode "a\r\n\nb".toList, .ok none⟩
      | _ => ⟨[], .error (.launch ⟨"malioc"⟩ .notFound)⟩
    let machine : Machine := { files := { nodes := [(["tmp"], .directory)] } }
    let cycle (stages : List Stage) (platform : Platform) : Step :=
      (session stages platform).compileWith runs .defines ⟨"left".toList, 1⟩ machine
    (∃ file, (cycle [.fragment, .vertex, .fragment] .gles3x).machine.variants = [file]) ∧
      (cycle [.fragment, .vertex, .fragment] .gles3x).session.reports.inOrder =
        [(.vertex, .compiled "a\nb\n" none),
          (.fragment, .launchFailed ("unable to start \"malioc\": No such file or directory " ++
            "(os error 2)\nIs Arm Mobile Studio installed and included in the PATH?\n"))] ∧
      (cycle [.fragment] .metal).outcome = .error (.materialize
        ["platform metal is not supported by the define oracle"]) ∧
      (cycle [] .metal).outcome = .ok () := by
  intro shader session runs machine cycle
  let pass (stages : List Stage) : Pass := ⟨0, 0, "forward", "", stages, [], []⟩
  have mixed : (session [.fragment, .vertex, .fragment] .gles3x).requirePass =
      .ok (pass [.fragment, .vertex, .fragment]) := by decide +kernel
  have other_platform : (session [.fragment] .metal).requirePass = .ok (pass [.fragment]) := by
    decide +kernel
  have silent : (session [] .metal).requirePass = .ok (pass []) := by decide +kernel
  obtain ⟨-, -, done, -⟩ := compileWith_reports mixed runs ⟨"left".toList, 1⟩ machine
  obtain ⟨-, refused, -⟩ := compileWith_reports other_platform runs ⟨"left".toList, 1⟩ machine
  obtain ⟨succeeded, -⟩ := compileWith_reports silent runs ⟨"left".toList, 1⟩ machine
  obtain ⟨file, location, -, -, -, variants, -, ordered⟩ := done (by simp [pass]) (by decide +kernel)
  refine ⟨⟨file, variants⟩, ordered.trans ?_, (refused (by simp [pass]) rfl).1, (succeeded rfl).1⟩
  decide +kernel

end ShaderVariants.Session
