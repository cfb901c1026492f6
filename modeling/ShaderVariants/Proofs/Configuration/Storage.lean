import ShaderVariants.Proofs.Configuration
import ShaderVariants.Proofs.Configuration.Rendering
import ShaderVariants.Proofs.FileSystem.Attempt

/-!
What loading the configuration does to the files.

`attemptIn` is `loadOrCreateIn` with the files it leaves when it fails as well.  A file that is
there stays as it is, whether or not it can be loaded; where none was there the default one is
written, and it is read back as the default.
-/
namespace ShaderVariants.Configuration

open FileSystem (Attempt Extends)

variable {configuration : Configuration} {files made later : FileSystem} {directory path : Path}
  {location : Location} {node : Node}

/-- `createIn`, with the files it leaves when it fails as well. -/
def attemptCreateIn (files : FileSystem) (directory : Path) : Attempt ConfigurationError Path :=
  let path := directory.join fileName
  match files.attemptChain directory.ancestors with
  | ⟨.error reason, made⟩ => ⟨.error (.createDirectory directory reason), made⟩
  | ⟨.ok (), made⟩ =>
      match made.write path (Utf8.encode defaultText.toList) with
      | .error reason => ⟨.error (.write path reason), made⟩
      | .ok written => ⟨.ok path, written⟩

/-- `loadOrCreateIn`, with the files it leaves when it fails as well. -/
def attemptIn (files : FileSystem) (directory : Path) :
    Attempt ConfigurationError Configuration :=
  let path := directory.join fileName
  if files.hasPath path then ⟨loadFrom files path, files⟩
  else
    match attemptCreateIn files directory with
    | ⟨.error error, made⟩ => ⟨.error error, made⟩
    | ⟨.ok _, made⟩ => ⟨loadFrom made path, made⟩

theorem createIn_eq_answer (files : FileSystem) (directory : Path) :
    createIn files directory = (attemptCreateIn files directory).answer := by
  unfold createIn attemptCreateIn FileSystem.makeDirectories
  rw [FileSystem.makeChain_eq_answer]
  obtain ⟨outcome, made⟩ := files.attemptChain directory.ancestors
  cases outcome with
  | error reason => rfl
  | ok done =>
      dsimp only [Attempt.answer, Except.map]
      cases made.write (directory.join fileName) (Utf8.encode defaultText.toList) <;> rfl

theorem loadOrCreateIn_eq_answer (files : FileSystem) (directory : Path) :
    loadOrCreateIn files directory = (attemptIn files directory).answer := by
  unfold loadOrCreateIn attemptIn
  rw [createIn_eq_answer]
  dsimp only
  split
  · simp only [bind, Except.bind, Attempt.answer]
    cases loadFrom files (directory.join fileName) <;> rfl
  · obtain ⟨outcome, made⟩ := attemptCreateIn files directory
    cases outcome with
    | error reason => rfl
    | ok path =>
        simp only [bind, Except.bind, Attempt.answer, Except.map]
        cases loadFrom made (directory.join fileName) <;> rfl

/-- The files after an attempt to create the configuration: the directories made, and the default
configuration in them if it could be written. -/
theorem files_attemptCreateIn (files : FileSystem) (directory : Path) :
    let made := (files.attemptChain directory.ancestors).files
    (attemptCreateIn files directory).files = made ∨
      made.write (directory.join fileName) (Utf8.encode defaultText.toList) =
        .ok (attemptCreateIn files directory).files := by
  unfold attemptCreateIn
  obtain ⟨outcome, made⟩ := files.attemptChain directory.ancestors
  cases outcome with
  | error reason => exact .inl rfl
  | ok done =>
      dsimp only
      cases written : made.write (directory.join fileName) (Utf8.encode defaultText.toList) with
      | error reason => exact .inl rfl
      | ok later => exact .inr rfl

theorem loadFrom_of_read {text : String} (stored : files.read path = .ok (Utf8.encode text.toList))
    (parsed : ofText? text.toList = some configuration) :
    loadFrom files path = .ok configuration := by
  refine loadFrom_eq_ok_iff.mpr ⟨text, ?_, parsed⟩
  rw [FileSystem.readText_of_read stored, String.ofList_toList]

theorem read_of_createIn (done : createIn files directory = .ok (path, later)) :
    later.read (directory.join fileName) = .ok (Utf8.encode defaultText.toList) := by
  unfold createIn at done
  dsimp only at done
  split at done
  · cases done
  · next made _ =>
      split at done
      · cases done
      · next written =>
          cases done
          exact FileSystem.read_of_write written

theorem hasPath_of_loadFrom (read : loadFrom files path = .ok configuration) :
    files.hasPath path = true := by
  obtain ⟨text, stored, -⟩ := loadFrom_eq_ok_iff.mp read
  rw [FileSystem.hasPath]
  cases found : files.resolve path with
  | ok location => rfl
  | error reason => simp [FileSystem.readText, FileSystem.read, found, bind, Except.bind] at stored

theorem loadOrCreateIn_of_hasPath (present : files.hasPath (directory.join fileName) = true) :
    loadOrCreateIn files directory =
      (loadFrom files (directory.join fileName)).map
        fun configuration => (configuration, files) := by
  rw [loadOrCreateIn_eq_answer, attemptIn, if_pos present]
  rfl

/-- Where there is no file, loading succeeds whenever creating one does. -/
theorem loadOrCreateIn_of_createIn (missing : files.hasPath (directory.join fileName) = false)
    (done : createIn files directory = .ok (path, later)) :
    loadOrCreateIn files directory = .ok ({}, later) := by
  have read : loadFrom later (directory.join fileName) = .ok {} :=
    loadFrom_of_read (read_of_createIn done) ofText?_defaultText
  unfold loadOrCreateIn
  simp [missing, done, read, Except.map, bind, Except.bind, pure, Except.pure]

/-- A file is replaced only if the path leads to it where it did not before. -/
theorem holds_attemptCreateIn (held : files.Holds location node)
    (apart : (files.attemptChain directory.ancestors).files.resolve (directory.join fileName) ≠
      .ok location) :
    (attemptCreateIn files directory).files.Holds location node := by
  have extended := FileSystem.extends_attemptChain files directory.ancestors
  rcases files_attemptCreateIn files directory with unwritten | written
  · rw [unwritten]
    exact extended.holds held
  · rcases FileSystem.write_cases written with
      ⟨there, before, program?, found, stored, replaced⟩ | created
    · rw [replaced]
      refine (extended.holds held).put_file stored ?_
      rintro rfl
      exact apart found
    · exact created.extended.holds (extended.holds held)

theorem createIn_of_loadOrCreateIn (missing : files.hasPath (directory.join fileName) = false)
    (read : loadOrCreateIn files directory = .ok (configuration, later)) :
    ∃ path, createIn files directory = .ok (path, later) := by
  unfold loadOrCreateIn at read
  simp only [missing, Bool.false_eq_true, if_false] at read
  cases made : createIn files directory with
  | error error => simp [made, Except.map, bind, Except.bind] at read
  | ok pair =>
      simp only [made, Except.map, bind, Except.bind] at read
      split at read
      · cases read
      · cases read
        exact ⟨pair.1, rfl⟩

theorem files_attemptIn (missing : files.hasPath (directory.join fileName) = false) :
    (attemptIn files directory).files = (attemptCreateIn files directory).files := by
  unfold attemptIn
  simp only [missing, Bool.false_eq_true, if_false]
  obtain ⟨outcome, made⟩ := attemptCreateIn files directory
  cases outcome <;> rfl

theorem holds_attemptIn (descends : files.Descends (directory.join fileName))
    (held : files.Holds location node) :
    (attemptIn files directory).files.Holds location node := by
  cases present : files.hasPath (directory.join fileName) with
  | true =>
      rw [attemptIn, if_pos present]
      exact held
  | false =>
      rw [files_attemptIn present]
      refine holds_attemptCreateIn held fun found => ?_
      have extended := FileSystem.extends_attemptChain files directory.ancestors
      rw [FileSystem.hasPath, extended.resolve_back descends held found] at present
      cases present

/-- A configuration that has been loaded is loaded again, without another change. -/
theorem loadOrCreateIn_again (read : loadOrCreateIn files directory = .ok (configuration, later)) :
    loadOrCreateIn later directory = .ok (configuration, later) := by
  have stored := loadFrom_of_loadOrCreateIn read
  rw [loadOrCreateIn_of_hasPath (hasPath_of_loadFrom stored), stored]
  rfl

/-- Loading the configuration of a directory changes no configuration that is there, and answers
the same when it is done again.

A file that the path leads to is left alone together with all others, whatever is in it and
whatever is answered.  Where the path leads nowhere the default is written and loaded; every file
and directory that was there stays, unless the path goes upwards from a directory that was
missing. -/
theorem loadOrCreateIn_keeps (files : FileSystem) (directory : Path) :
    loadOrCreateIn files directory = (attemptIn files directory).answer ∧
    (files.hasPath (directory.join fileName) = true → (attemptIn files directory).files = files) ∧
    (files.Descends (directory.join fileName) → ∀ location node, files.Holds location node →
      (attemptIn files directory).files.Holds location node) ∧
    ∀ configuration later, loadOrCreateIn files directory = .ok (configuration, later) →
      (files.hasPath (directory.join fileName) = false → configuration = {} ∧
        later.read (directory.join fileName) = .ok (Utf8.encode defaultText.toList) ∧
        ofText? defaultText.toList = some {}) ∧
      loadOrCreateIn later directory = .ok (configuration, later) := by
  refine ⟨loadOrCreateIn_eq_answer files directory, fun present => ?_,
    fun descends location node => holds_attemptIn descends,
    fun configuration later read => ⟨fun missing => ?_, loadOrCreateIn_again read⟩⟩
  · rw [attemptIn, if_pos present]
  · obtain ⟨path, done⟩ := createIn_of_loadOrCreateIn missing read
    rw [loadOrCreateIn_of_createIn missing done] at read
    cases read
    exact ⟨rfl, read_of_createIn done, ofText?_defaultText⟩

theorem loadOrCreateIn_keeps_broken :
    let broken : Node := .file (Utf8.encode "[watch".toList) none
    let files : FileSystem := { nodes := [(["config.toml"], broken)] }
    (files.hasPath (Path.join ⟨"."⟩ fileName) = true ∧ (attemptIn files ⟨"."⟩).files = files) ∧
    (files.Descends (Path.join ⟨"a/b"⟩ fileName) ∧
      files.Holds ["config.toml"] broken ∧
      (attemptIn files ⟨"a/b"⟩).files.Holds ["config.toml"] broken) ∧
    files.hasPath (Path.join ⟨"a/b"⟩ fileName) = false ∧
    ∃ later, loadOrCreateIn files ⟨"a/b"⟩ = .ok ({}, later) ∧
      later.read (Path.join ⟨"a/b"⟩ fileName) = .ok (Utf8.encode defaultText.toList) ∧
      ofText? defaultText.toList = some {} ∧
      loadOrCreateIn later ⟨"a/b"⟩ = .ok ({}, later) := by
  intro broken files
  have present : files.hasPath (Path.join ⟨"."⟩ fileName) = true := by decide
  have descends : files.Descends (Path.join ⟨"a/b"⟩ fileName) :=
    ⟨[], _, [], rfl, rfl, by decide⟩
  have held : files.Holds ["config.toml"] broken := by
    refine ⟨rfl, fun outer around => ?_⟩
    rcases List.prefix_cons_iff.mp around with rfl | ⟨inner, rfl, nothing⟩
    · rfl
    · rw [List.prefix_nil.mp nothing]
      rfl
  have missing : files.hasPath (Path.join ⟨"a/b"⟩ fileName) = false := by decide
  have done : (createIn files ⟨"a/b"⟩).isOk = true := by decide
  cases created : createIn files ⟨"a/b"⟩ with
  | error error =>
      rw [created] at done
      cases done
  | ok pair =>
      obtain ⟨path, later⟩ := pair
      have read := loadOrCreateIn_of_createIn missing created
      obtain ⟨-, kept, -, -⟩ := loadOrCreateIn_keeps files ⟨"."⟩
      obtain ⟨-, -, others, answered⟩ := loadOrCreateIn_keeps files ⟨"a/b"⟩
      obtain ⟨new, again⟩ := answered {} later read
      obtain ⟨-, stored, parsed⟩ := new missing
      exact ⟨⟨present, kept present⟩,
        ⟨descends, held, others descends ["config.toml"] broken held⟩, missing, later, read,
        stored, parsed, again⟩

/-- A path that goes upwards from a directory that is still missing leads nowhere until the
directory has been made: a configuration behind it is taken for missing, and replaced. -/
theorem loadOrCreateIn_overwrites :
    let files : FileSystem :=
      { nodes := [(["config.toml"], .file (Utf8.encode "[watch]\ndebounce_ms = 5\n".toList) none)] }
    loadFrom files fileName = .ok { watch := ⟨5⟩ } ∧
    ∃ later, loadOrCreateIn files ⟨"a/.."⟩ = .ok ({}, later) ∧
      loadFrom later fileName = .ok {} := by
  intro files
  have parsed : ofText? "[watch]\ndebounce_ms = 5\n".toList = some { watch := ⟨5⟩ } := by
    decide +kernel
  have before : files.read fileName = .ok (Utf8.encode "[watch]\ndebounce_ms = 5\n".toList) := rfl
  let later := (files.put ["a"] .directory).put ["config.toml"]
    (.file (Utf8.encode defaultText.toList) none)
  have missing : files.hasPath (Path.join ⟨"a/.."⟩ fileName) = false := by decide
  have created : createIn files ⟨"a/.."⟩ = .ok (Path.join ⟨"a/.."⟩ fileName, later) := rfl
  have after : later.read fileName = .ok (Utf8.encode defaultText.toList) := rfl
  exact ⟨loadFrom_of_read before parsed, later, loadOrCreateIn_of_createIn missing created,
    loadFrom_of_read after ofText?_defaultText⟩

end ShaderVariants.Configuration
