import ShaderVariants.Configuration.Storage
import ShaderVariants.Proofs.FileSystem.Canonical

/-!
Reading the configuration file.

What is read depends on nothing but the text of the file: not on how its path is spelled, nor on
which files there are beside it.
-/
namespace ShaderVariants.Configuration

variable {configuration newest : Configuration} {files later : FileSystem} {path other : Path}
  {machine loaded : Machine}

theorem loadFrom_eq_ok_iff :
    loadFrom files path = .ok configuration ↔
      ∃ text, files.readText path = .ok text ∧ ofText? text.toList = some configuration := by
  unfold loadFrom
  cases stored : files.readText path with
  | error reason => simp
  | ok text => cases parsed : ofText? text.toList <;> simp [parsed]

theorem loadFrom_of_agrees (agreeing : other.agrees path = true)
    (read : loadFrom files path = .ok configuration)
    (also : loadFrom files other = .ok newest) : newest = configuration := by
  obtain ⟨text, stored, parsed⟩ := loadFrom_eq_ok_iff.mp read
  obtain ⟨second, stored_also, parsed_also⟩ := loadFrom_eq_ok_iff.mp also
  rw [FileSystem.readText_of_agrees agreeing stored stored_also, parsed] at parsed_also
  exact (Option.some.inj parsed_also).symm

theorem loadFrom_extends (extended : FileSystem.Extends files later)
    (read : loadFrom files path = .ok configuration) :
    loadFrom later path = .ok configuration := by
  obtain ⟨text, stored, parsed⟩ := loadFrom_eq_ok_iff.mp read
  exact loadFrom_eq_ok_iff.mpr ⟨text, extended.readText stored, parsed⟩

theorem loadFrom_canonical
    (working : ∀ name ∈ files.workingDirectory, FileSystem.IsName name)
    (read : loadFrom files (files.canonical path) = .ok configuration) :
    loadFrom files path = .ok configuration := by
  obtain ⟨text, stored, parsed⟩ := loadFrom_eq_ok_iff.mp read
  exact loadFrom_eq_ok_iff.mpr ⟨text, FileSystem.readText_canonical working stored, parsed⟩

theorem loadFrom_of_loadOrCreateIn {files later : FileSystem} {directory : Path}
    (read : loadOrCreateIn files directory = .ok (configuration, later)) :
    loadFrom later (directory.join fileName) = .ok configuration := by
  have read_from (made : FileSystem)
      (done : (do return (← loadFrom made (directory.join fileName),
        made) : Except ConfigurationError (Configuration × FileSystem)) =
          .ok (configuration, later)) :
      loadFrom later (directory.join fileName) =
        .ok configuration := by
    cases found : loadFrom made (directory.join fileName) with
    | error error => simp [found, bind, Except.bind] at done
    | ok stored =>
        simp only [found, bind, Except.bind, pure, Except.pure, Except.ok.injEq,
          Prod.mk.injEq] at done
        obtain ⟨rfl, rfl⟩ := done
        exact found
  unfold loadOrCreateIn at read
  dsimp only at read
  split at read
  · exact read_from files read
  · cases made : createIn files directory with
    | error error => simp [made, Except.map, bind, Except.bind] at read
    | ok pair =>
        rw [made] at read
        exact read_from pair.2 read

theorem loadFrom_of_load (read : load machine = .ok (configuration, loaded)) :
    ∃ path, filePath loaded.environment = .ok path ∧
      loadFrom loaded.files path = .ok configuration := by
  unfold load at read
  cases named : Configuration.directory machine.environment with
  | error error => simp [named, bind, Except.bind] at read
  | ok directory =>
      cases found : loadOrCreateIn machine.files directory with
      | error error => simp [named, found, bind, Except.bind] at read
      | ok pair =>
          simp only [named, found, bind, Except.bind, pure, Except.pure, Except.ok.injEq,
            Prod.mk.injEq] at read
          obtain ⟨rfl, rfl⟩ := read
          refine ⟨directory.join fileName, ?_, loadFrom_of_loadOrCreateIn found⟩
          rw [filePath, named]
          rfl

end ShaderVariants.Configuration
