import ShaderVariants.Proofs.Keyword.Index
import ShaderVariants.Proofs.Session.Compilation
import ShaderVariants.Proofs.Text.Utf8
import ShaderVariants.Proofs.Variant.Preamble

/-!
The variant that a cycle writes and compiles.

A keyword has no line break in it, so its definition is one line, and none that the version line
takes the place of.
-/
namespace ShaderVariants.Session

open Text

variable {session : Session} {machine : Machine} {pass : Pass} {keywords : List String}

def defineWord : Text := ['#', 'd', 'e', 'f', 'i', 'n', 'e']

/-- The line that defines a keyword. -/
def definitionLine (keyword : String) : Text :=
  defineWord ++ ' ' :: keyword.toList

theorem toList_definitions (keywords : List String) :
    (Oracle.definitions keywords).toList =
      keywords.flatMap fun keyword => definitionLine keyword ++ ['\n'] := by
  induction keywords with
  | nil => rfl
  | cons keyword rest ih =>
      have word : "#define ".toList = defineWord ++ [' '] := by decide
      have ending : "\n".toList = ['\n'] := by decide
      rw [Oracle.definitions, List.map_cons, String.join_cons, String.toList_append,
        ← Oracle.definitions, ih, List.flatMap_cons, String.toList_append, String.toList_append,
        word, ending, definitionLine]
      simp only [List.append_assoc, List.cons_append, List.nil_append]

theorem not_isVersionLine_definitionLine (keyword : String) :
    ¬ Preamble.IsVersionLine (definitionLine keyword) := by
  rw [← Preamble.versionAhead_iff]
  simp [definitionLine, defineWord, Preamble.versionAhead, Preamble.isIndent, after?,
    Preamble.versionWord]

/-- The definitions stay when version lines are removed. -/
theorem remove_definitions (unbroken : ∀ keyword ∈ keywords, '\n' ∉ keyword.toList)
    (source : Text) :
    Preamble.remove .deciding
        ((keywords.flatMap fun keyword => definitionLine keyword ++ ['\n']) ++ source) =
      (keywords.flatMap fun keyword => definitionLine keyword ++ ['\n']) ++
        Preamble.remove .deciding source := by
  induction keywords with
  | nil => rfl
  | cons keyword rest ih =>
      rw [List.forall_mem_cons] at unbroken
      have line_unbroken : '\n' ∉ definitionLine keyword := by
        simp [definitionLine, defineWord, unbroken.1]
      simp only [List.flatMap_cons, List.append_assoc, List.cons_append, List.nil_append]
      rw [Preamble.remove_line line_unbroken, if_neg (not_isVersionLine_definitionLine keyword),
        ih unbroken.2]
      simp only [List.append_assoc, List.singleton_append]

/-- Keywords of a pass that was indexed have no line break. -/
theorem unbroken_keywords (consistent : Consistent session)
    (active : session.activePass? = some pass) :
    ∀ keyword ∈ session.selection.keywords pass, '\n' ∉ keyword.toList := by
  intro keyword member
  obtain ⟨group, in_pass, option⟩ := Selection.mem_options_of_mem_keywords member
  obtain ⟨index, -, found⟩ := Option.bind_eq_some_iff.mp active
  have built := List.mem_of_getElem? found
  have indexed_eq := congrArg Prod.fst consistent.indexed_eq
  simp only at indexed_eq
  rw [indexed_eq] at built
  cases selected : session.shader? with
  | none => simp [selected, indexed] at built
  | some shader =>
      rw [selected] at built
      obtain ⟨known, groups⟩ := Pass.groups_of_mem_ofAsset built
      rw [groups, Keyword.index] at in_pass
      intro broken
      have solid := Keyword.solid_of_mem_groupsOfLines in_pass option '\n' broken
      cases solid

/-- The text that is compiled for a pass and its keywords. -/
def variantCode (settings : VariantSettings) (keywords : List String) (source : Text) : Text :=
  settings.versionLine.toList ++ '\n' ::
    ((keywords.flatMap fun keyword => definitionLine keyword ++ ['\n']) ++
      ((lines source).filter fun line => ¬ Preamble.IsVersionLine line).flatten)

theorem patch_defines (settings : VariantSettings) (source : String)
    (unbroken : ∀ keyword ∈ keywords, '\n' ∉ keyword.toList) :
    settings.patch (Utf8.encode (Oracle.definitions keywords ++ source).toList) =
      variantCode settings keywords source.toList := by
  rw [VariantSettings.patch, Utf8.decodeLossy_encode, Preamble.withVersion, String.toList_append,
    toList_definitions, remove_definitions unbroken, Preamble.remove_eq_filter, variantCode]

theorem bytes_of_materialize {request : VariantRequest} {bytes : Bytes}
    (made : Oracle.defines.materialize request = .ok bytes) :
    bytes = Utf8.encode (Oracle.definitions request.keywords ++ request.pass.source).toList := by
  simp only [Oracle.defines] at made
  split at made
  · cases made
  · split at made
    · cases made
    · cases made
      rfl

theorem cycleHeading_of_active (active : session.activePass? = some pass) (reports : Reports) :
    Application.cycleHeading { session with reports } =
      "Pass '" ++ pass.name ++ "' with keywords [" ++ String.intercalate " " session.keywords ++
        "] using " ++ session.compiler.display ++ "\n" := by
  have same : ({ session with reports } : Session).activePass? = some pass := active
  rw [Application.cycleHeading, same]
  rfl

/-- A cycle that succeeds for a pass with a stage leaves one new file with the version line, a
definition for each keyword and the source without its version lines, and that file is what is
compiled for every stage.  The keywords are the nonempty options among those chosen, group by group,
and they are the ones that are printed. -/
theorem compiled_variant (reachable : Reachable session)
    (active : session.activePass? = some pass) (declared : pass.stages ≠ [])
    (succeeded : (Application.compileAndPrint .defines session machine).1.outcome = .ok ()) :
    let (step, output) := Application.compileAndPrint .defines session machine
    let stages := Stage.all.filter pass.declares
    let code := variantCode session.settings session.keywords pass.source.toList
    (∃ options : List String, options.length = pass.groups.length ∧
      (pass.groups.zip session.selection.choices).map (fun (group, choice) =>
        group.option? choice) = options.map some ∧
      session.keywords = options.filter fun option => !option.isEmpty) ∧
    (∃ path first,
      machine.files.hasPath path = false ∧
      step.machine.files.read path = .ok (Utf8.encode code) ∧
      step.machine.activity = machine.activity ++
        .asked (session.request pass first) ::
        .wrote ⟨path, session.settings.directory?.getD machine.environment.temporaryDirectory,
          session.settings.suffix, code⟩ ::
        stages.map (fun stage =>
          .launched session.compiler.program (CompilerTarget.arguments stage path)) ∧
      step.session.reports = Reports.ofList (stages.map fun stage =>
        (stage, stageReport session.compiler step.machine path stage))) ∧
    output = "Pass '" ++ pass.name ++ "' with keywords [" ++
      String.intercalate " " session.keywords ++ "] using " ++ session.compiler.display ++ "\n" ++
      Listing.reports step.session.reports := by
  have consistent := consistent_of_reachable reachable
  have cycle := cycle_compile consistent active .defines machine
  have keywords_eq : session.keywords = session.selection.keywords pass := by
    rw [keywords, active]
  rw [compileAndPrint_eq] at succeeded ⊢
  generalize session.compile .defines machine = step at cycle succeeded
  cases cycle with
  | unsupported none_left =>
      obtain ⟨stage, member⟩ := List.exists_mem_of_ne_nil _ declared
      have supported := List.filter_eq_nil_iff.mp none_left stage (Stage.mem_all stage)
      exact absurd (List.contains_iff_mem.mpr member) supported
  | refused supported made => cases succeeded
  | unwritten supported made failed => cases succeeded
  | @compiled first others bytes path written supported made done =>
      obtain ⟨index, chosen, found⟩ := Option.bind_eq_some_iff.mp active
      have inRange := Selection.inRange_of_suits consistent.suits chosen found
      obtain ⟨options, one_each, picked, kept⟩ := Selection.keywords_eq_filter inRange
      have code_eq : session.settings.patch bytes =
          variantCode session.settings session.keywords pass.source.toList := by
        rw [bytes_of_materialize made, keywords_eq]
        exact patch_defines session.settings pass.source (unbroken_keywords consistent active)
      obtain ⟨files, created, rfl⟩ := Machine.writeVariant_ok done
      rw [code_eq] at created
      have stages_eq : Stage.all.filter pass.declares = first :: others := supported
      refine ⟨⟨options, one_each, picked, keywords_eq.trans kept⟩,
        ⟨path, first, ?_, ?_, ?_, ?_⟩, ?_⟩
      · have missing : machine.files.resolve path = .error .notFound := created.missing
        rw [FileSystem.hasPath, missing]
        rfl
      · rw [noteLaunches_eq]
        exact created.stored
      · rw [noteLaunches_eq, stages_eq, code_eq]
        simp only [Machine.note, List.append_assoc, List.cons_append, List.nil_append]
      · simp only [stageReport_noteLaunches, stages_eq]
      · simp only [Application.cycleText, cycleHeading_of_active active]

theorem compiled_variant_of_source :
    let source := "#version 300 es\n#pragma multi_compile _ RED\nvoid main() {}"
    let machine : Machine := { files := { nodes := [(["tmp"], .directory)] } }
    let selected :=
      (Session.new .malioc {}).perform .defines (.selectShader (some (.ofSource "lit" source))) {}
    let session := (selected.session.perform .defines (.command (.selectOption 0 1)) {}).session
    let step := (Application.compileAndPrint .defines session machine).1
    session.keywords = ["RED"] ∧
      ∃ path, machine.files.hasPath path = false ∧
        step.machine.files.read path = .ok (Utf8.encode
          "#version 310 es\n#define RED\n#pragma multi_compile _ RED\nvoid main() {}".toList) := by
  intro source machine selected session step
  have reachable : Reachable session := .perform (.perform (.new _ _) _ _ _) _ _ _
  have succeeded : (Application.compileAndPrint .defines session machine).1.outcome = .ok () := by
    decide +kernel
  have chosen : session.keywords = ["RED"] := by decide +kernel
  have looked : session.activePass?.map (fun pass => (pass.source, pass.stages)) =
      some (source, [.vertex, .fragment]) := by decide +kernel
  obtain ⟨pass, active, parts⟩ := Option.map_eq_some_iff.mp looked
  obtain ⟨same_source, stages⟩ := Prod.mk.inj parts
  obtain ⟨-, ⟨path, first, fresh, stored, -⟩, -⟩ :=
    compiled_variant reachable active (by simp [stages]) succeeded
  have code : variantCode session.settings session.keywords pass.source.toList =
      "#version 310 es\n#define RED\n#pragma multi_compile _ RED\nvoid main() {}".toList := by
    rw [same_source]
    decide +kernel
  rw [code] at stored
  exact ⟨chosen, path, fresh, stored⟩

end ShaderVariants.Session
