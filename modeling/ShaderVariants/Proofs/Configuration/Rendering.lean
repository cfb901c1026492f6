import Mathlib.Tactic.SplitIfs
import ShaderVariants.Configuration.Storage
import ShaderVariants.Proofs.Toml.Tables

/-!
Writing a configuration and reading it back.

A rendered configuration is a document of three plain tables, one for each of its sections, and
`ofText?_render` reads every configuration back from it, also below the comments that a new file
starts with.
-/
namespace ShaderVariants

theorem CompilerKind.ofName?_name (kind : CompilerKind) : ofName? kind.name = some kind := by
  cases kind <;> decide

theorem Platform.ofName?_name (platform : Platform) : ofName? platform.name = some platform := by
  cases platform <;> decide

theorem BuildTarget.ofName?_name (target : BuildTarget) : ofName? target.name = some target := by
  cases target <;> decide

namespace Configuration

open Toml

variable {text : Text} {later : List Statement} {value : Value} {line written : String}

/-! ### The parts of a rendered configuration -/

def heading (key : String) : String :=
  "[" ++ key ++ "]\n"

def note (line : String) : String :=
  "#" ++ line ++ "\n"

def pathLine (key : String) (path? : Option Path) : String :=
  match path? with
  | some path => assignment key (quoted path.text)
  | none => ""

def pathField (key : String) (path? : Option Path) : List (String × Value) :=
  path?.toList.map fun path => (key, .string path.text)

/-- What a character is written as between quotes. -/
def escaped (c : Char) : Text :=
  if c = '"' || c = '\\' then ['\\', c]
  else if c = '\n' then ['\\', 'n']
  else if c = '\t' then ['\\', 't']
  else if c = '\r' then ['\\', 'r']
  else if c.toNat < 0x20 || c.toNat = 0x7F then
    let digits := Nat.toDigits 16 c.toNat
    ['\\', 'u'] ++ List.replicate (4 - digits.length) '0' ++ digits
  else [c]

theorem toList_quoted (string : String) :
    (quoted string).toList = '"' :: (string.toList.flatMap escaped ++ ['"']) := by
  rw [quoted, String.toList_ofList]
  rfl

/-- Four digits are enough for every character that is written by its code point. -/
theorem hexValue?_padded : ∀ code < 0x80,
    let digits := Nat.toDigits 16 code
    let padded := List.replicate (4 - digits.length) '0' ++ digits
    padded.length = 4 ∧ hexValue? padded = some code := by
  decide

theorem isOrdinary_of_printable {c : Char} (printable : ¬(c.toNat < 0x20 ∨ c.toNat = 0x7F)) :
    isOrdinary c = true := by
  have bounds : 0x20 ≤ c.toNat ∧ c.toNat ≤ 0x7E ∨ 0x80 ≤ c.toNat := by omega
  simp only [isOrdinary, Bool.or_eq_true, Bool.and_eq_true, decide_eq_true_eq]
  exact bounds.elim (fun ascii => .inl (.inr ascii)) .inr

theorem spells_escaped (c : Char) : Spells (escaped c) c := by
  unfold escaped
  split_ifs with special newline tab feed control
  · simp only [Bool.or_eq_true, decide_eq_true_eq] at special
    rcases special with rfl | rfl
    · exact spells_escape fun rest => rfl
    · exact spells_escape fun rest => rfl
  · exact newline ▸ spells_escape fun rest => rfl
  · exact tab ▸ spells_escape fun rest => rfl
  · exact feed ▸ spells_escape fun rest => rfl
  · simp only [Bool.or_eq_true, decide_eq_true_eq] at control
    obtain ⟨four, value⟩ := hexValue?_padded c.toNat (by omega)
    exact spells_escape (escape?_codePoint four value)
  · simp only [Bool.or_eq_true, decide_eq_true_eq, not_or] at special control
    exact spells_ordinary special.1 special.2 (isOrdinary_of_printable (by omega))

theorem isWritten_quotedString (string : String) :
    IsWritten (quoted string).toList (.string string) := by
  have read := isWritten_quoted spells_escaped string.toList
  rwa [String.ofList_toList, ← toList_quoted] at read

theorem isWritten_number {n : Nat} (small : n < integerBound) :
    IsWritten (toString n).toList (.integer n) := by
  rw [Nat.toString_eq_repr, Nat.toList_repr]
  exact isWritten_toDigits small

theorem written_assignment (key : String) (bare : IsBare key.toList)
    (reads : IsWritten written.toList value) (rest : Written text later) :
    Written ((assignment key written).toList ++ text) (.assign [key] value :: later) := by
  have line := Written.assign bare reads rest
  rw [String.ofList_toList] at line
  simp only [assignment, String.toList_append, List.append_assoc]
  exact line

theorem written_heading (key : String) (bare : IsBare key.toList) (rest : Written text later) :
    Written ((heading key).toList ++ text) (.table [key] :: later) := by
  have line := Written.table bare rest
  rw [String.ofList_toList] at line
  simp only [heading, String.toList_append, List.append_assoc]
  exact line

theorem written_note (ordinary : line.toList.all isOrdinary = true) (rest : Written text later) :
    Written ((note line).toList ++ text) later := by
  simp only [note, String.toList_append, List.append_assoc]
  exact .comment (List.all_eq_true.mp ordinary) rest

theorem written_header (rest : Written text later) : Written (header.toList ++ text) later := by
  have lines : header = note " shrep Configuration" ++ note "" ++
      note " [compiler] target: malioc, malisc or custom (set custom_path)" ++
      note " [variant] platform: gles3x or gles20 (GLSL); vulkan and metal need" ++
      note "           a non-GLSL variant oracle and are rejected by the default one" ++
      note " [variant] build_target: android, ios or standalone" ++ "\n" := rfl
  simp only [lines, String.toList_append, List.append_assoc]
  refine written_note (by decide +kernel) ?_
  refine written_note (by decide +kernel) ?_
  refine written_note (by decide +kernel) ?_
  refine written_note (by decide +kernel) ?_
  refine written_note (by decide +kernel) ?_
  exact written_note (by decide +kernel) (.blank rest)

/-! ### Sections -/

def compilerFields (compiler : CompilerSection) : List (String × Value) :=
  [("target", .string compiler.target.name)] ++ pathField "custom_path" compiler.customPath?

def variantFields (variant : VariantSettings) : List (String × Value) :=
  [("platform", .string variant.platform.name),
    ("build_target", .string variant.buildTarget.name),
    ("version_line", .string variant.versionLine),
    ("extension", .string variant.extension)] ++ pathField "temp_dir" variant.directory?

def watchFields (watch : WatchSection) : List (String × Value) :=
  [("debounce_ms", .integer watch.debounce)]

/-- The tables a configuration is written as. -/
def tables (configuration : Configuration) : List PlainTable :=
  [⟨"compiler", compilerFields configuration.compiler⟩,
    ⟨"variant", variantFields configuration.variant⟩,
    ⟨"watch", watchFields configuration.watch⟩]

theorem written_pathLine (key : String) (bare : IsBare key.toList) (path? : Option Path)
    (rest : Written text later) :
    Written ((pathLine key path?).toList ++ text)
      ((pathField key path?).map assigned ++ later) := by
  cases path? with
  | none => exact rest
  | some path => exact written_assignment key bare (isWritten_quotedString path.text) rest

theorem written_render (configuration : Configuration)
    (small : configuration.watch.debounce < integerBound) :
    Written configuration.render.toList (configuration.tables.flatMap PlainTable.statements) := by
  have lines : configuration.render =
      heading "compiler" ++
      assignment "target" (quoted configuration.compiler.target.name) ++
      pathLine "custom_path" configuration.compiler.customPath? ++
      ("\n" ++ heading "variant") ++
      assignment "platform" (quoted configuration.variant.platform.name) ++
      assignment "build_target" (quoted configuration.variant.buildTarget.name) ++
      assignment "version_line" (quoted configuration.variant.versionLine) ++
      assignment "extension" (quoted configuration.variant.extension) ++
      pathLine "temp_dir" configuration.variant.directory? ++
      ("\n" ++ heading "watch") ++
      assignment "debounce_ms" (toString configuration.watch.debounce) := rfl
  have statements : configuration.tables.flatMap PlainTable.statements =
      .table ["compiler"] ::
      .assign ["target"] (.string configuration.compiler.target.name) ::
      ((pathField "custom_path" configuration.compiler.customPath?).map assigned ++
      .table ["variant"] ::
      .assign ["platform"] (.string configuration.variant.platform.name) ::
      .assign ["build_target"] (.string configuration.variant.buildTarget.name) ::
      .assign ["version_line"] (.string configuration.variant.versionLine) ::
      .assign ["extension"] (.string configuration.variant.extension) ::
      ((pathField "temp_dir" configuration.variant.directory?).map assigned ++
      [.table ["watch"],
      .assign ["debounce_ms"] (.integer configuration.watch.debounce)])) := by
    simp [tables, PlainTable.statements, compilerFields, variantFields, watchFields, assigned]
  rw [lines, statements, ← List.append_nil (String.toList _)]
  simp only [String.toList_append, List.append_assoc]
  refine written_heading "compiler" (by decide) ?_
  refine written_assignment "target" (by decide) (isWritten_quotedString _) ?_
  refine written_pathLine "custom_path" (by decide) _ (.blank ?_)
  refine written_heading "variant" (by decide) ?_
  refine written_assignment "platform" (by decide) (isWritten_quotedString _) ?_
  refine written_assignment "build_target" (by decide) (isWritten_quotedString _) ?_
  refine written_assignment "version_line" (by decide) (isWritten_quotedString _) ?_
  refine written_assignment "extension" (by decide) (isWritten_quotedString _) ?_
  refine written_pathLine "temp_dir" (by decide) _ (.blank ?_)
  refine written_heading "watch" (by decide) ?_
  exact written_assignment "debounce_ms" (by decide) (isWritten_number small) .done

/-! ### Reading back -/

theorem keys_pathField (key : String) (path? : Option Path) :
    (pathField key path?).map (·.1) = [] ∨ (pathField key path?).map (·.1) = [key] := by
  cases path? with
  | none => exact .inl rfl
  | some path => exact .inr rfl

theorem keys_tables (configuration : Configuration) :
    ∀ table ∈ configuration.tables, table.keys.Nodup := by
  simp only [tables, List.forall_mem_cons, PlainTable.keys, compilerFields, variantFields,
    watchFields, List.map_append]
  refine ⟨?_, ?_, by simp⟩
  · rcases keys_pathField "custom_path" configuration.compiler.customPath? with keys | keys <;>
      simp [keys]
  · rcases keys_pathField "temp_dir" configuration.variant.directory? with keys | keys <;>
      simp [keys]

theorem optional_pathField {key : String} {fields : List (String × Value)} (place : Nat)
    (others : fields.lookup key = none) (path? : Option Path) :
    (Fields.named (fields ++ pathField key path?)).optional place key Value.path? = some path? := by
  cases path? <;>
    simp [Fields.optional, Fields.get?, pathField, List.lookup_append, others, Value.path?,
      Value.string?]

theorem ofValue?_compilerFields (compiler : CompilerSection) :
    CompilerSection.ofValue? (.table (compilerFields compiler)) = some compiler := by
  unfold CompilerSection.ofValue? Value.fields? compilerFields
  simp only [Option.bind_eq_bind, Option.bind_some]
  rw [optional_pathField 1 (by simp)]
  simp [Fields.getOr, Fields.get?, Value.choice?, CompilerKind.ofName?_name]

theorem ofValue?_variantFields (variant : VariantSettings) :
    VariantSettings.ofValue? (.table (variantFields variant)) = some variant := by
  unfold VariantSettings.ofValue? Value.fields? variantFields
  simp only [Option.bind_eq_bind, Option.bind_some]
  rw [optional_pathField 4 (by simp)]
  simp [Fields.getOr, Fields.get?, List.lookup_cons, Value.choice?, Value.string?,
    Platform.ofName?_name, BuildTarget.ofName?_name]

theorem ofValue?_watchFields (watch : WatchSection) :
    WatchSection.ofValue? (.table (watchFields watch)) = some watch := by
  simp [WatchSection.ofValue?, watchFields, Value.fields?, Fields.getOr, Fields.get?,
    Value.natural?]

theorem ofTable?_tables (configuration : Configuration) :
    ofTable? (configuration.tables.map fun table => (table.name, .table table.fields)) =
      some configuration := by
  simp [ofTable?, tables, Fields.getOr, Fields.get?, List.lookup_cons, ofValue?_compilerFields,
    ofValue?_variantFields, ofValue?_watchFields]

/-- Every configuration is read back as it was written, up to the numbers a document can hold. -/
theorem ofText?_render (configuration : Configuration)
    (small : configuration.watch.debounce < integerBound) :
    ofText? (header ++ configuration.render).toList = some configuration := by
  have written : Written (header ++ configuration.render).toList
      (configuration.tables.flatMap PlainTable.statements) := by
    rw [String.toList_append]
    exact written_header (written_render configuration small)
  have names : (configuration.tables.map (·.name)).Nodup := by simp [tables]
  have parsed := parse?_of_written written names configuration.keys_tables
  rw [ofText?, parsed]
  exact ofTable?_tables configuration

/-- A new configuration file says what the defaults say. -/
theorem ofText?_defaultText : ofText? defaultText.toList = some {} :=
  ofText?_render {} (by decide)

end Configuration

end ShaderVariants
