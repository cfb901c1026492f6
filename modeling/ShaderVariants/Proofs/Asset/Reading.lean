import Mathlib.Data.List.Basic
import ShaderVariants.Asset

/-!
What loading a shader reads.

A `Reading` gets at the files only by asking for their texts, so what it comes to depends on the
files that it asks for and on no others (`run_of_asked`).  Loading is such a reading
(`Asset.run_reading`), one that asks for the file of the shader and for those of its passes
(`Asset.mem_asked_iff`).
-/
namespace ShaderVariants

/-- A computation that asks for the texts of files, one after the other, and sees nothing else of the
file system. -/
inductive Reading (α : Type) where
  | done (result : Except AssetError α)
  | ask (path : Path) (next : Except SystemError String → Reading α)

namespace Reading

variable {α β : Type} {files later : FileSystem}

def run (files : FileSystem) : Reading α → Except AssetError α
  | .done result => result
  | .ask path next => (next (files.readText path)).run files

/-- The files that are asked for, in order. -/
def asked (files : FileSystem) : Reading α → List Path
  | .done _ => []
  | .ask path next => path :: (next (files.readText path)).asked files

/-- One reading and then the next; the first error ends both. -/
def andThen (next : α → Reading β) : Reading α → Reading β
  | .done (.ok result) => next result
  | .done (.error reason) => .done (.error reason)
  | .ask path rest => .ask path fun text => (rest text).andThen next

def each (reading : α → Reading β) : List α → Reading (List β)
  | [] => .done (.ok [])
  | item :: rest =>
      (reading item).andThen fun result =>
        (each reading rest).andThen fun results => .done (.ok (result :: results))

/-- Files that are not asked for do not matter. -/
theorem run_of_asked {reading : Reading α}
    (same : ∀ path ∈ reading.asked files, later.readText path = files.readText path) :
    reading.run later = reading.run files := by
  induction reading with
  | done result => rfl
  | ask path next ih =>
      rw [run, run, same path List.mem_cons_self]
      exact ih _ fun other among => same other (List.mem_cons_of_mem path among)

theorem run_andThen (reading : Reading α) (next : α → Reading β) :
    (reading.andThen next).run files =
      reading.run files >>= fun result => (next result).run files := by
  induction reading with
  | done result => cases result <;> rfl
  | ask path rest ih => exact ih _

theorem asked_andThen {reading : Reading α} {result : α} (ran : reading.run files = .ok result)
    (next : α → Reading β) :
    (reading.andThen next).asked files = reading.asked files ++ (next result).asked files := by
  induction reading with
  | done early =>
      cases ran
      rfl
  | ask path rest ih => exact congrArg (path :: ·) (ih _ ran)

theorem run_each (reading : α → Reading β) (items : List α) :
    (each reading items).run files = items.mapM fun item => (reading item).run files := by
  induction items with
  | nil => rfl
  | cons item rest ih =>
      rw [List.mapM_cons, ← ih, each, run_andThen]
      refine congrArg (bind _) (funext fun result => ?_)
      rw [run_andThen]
      rfl

/-- When each item shows in its result what was asked for it, so does the whole. -/
theorem asked_each {reading : α → Reading β} (shown : β → List Path)
    (shows_item : ∀ item result, (reading item).run files = .ok result →
      (reading item).asked files = shown result) {items : List α} {results : List β}
    (ran : (each reading items).run files = .ok results) :
    (each reading items).asked files = results.flatMap shown := by
  induction items generalizing results with
  | nil =>
      cases ran
      rfl
  | cons item rest ih =>
      rw [each, run_andThen] at ran
      cases head : (reading item).run files with
      | error reason => simp [head, bind, Except.bind] at ran
      | ok result =>
          simp only [head, run_andThen, bind, Except.bind] at ran
          cases tail : (each reading rest).run files with
          | error reason => simp [tail] at ran
          | ok others =>
              simp only [tail, run, Except.ok.injEq] at ran
              rw [each, asked_andThen head, asked_andThen tail, shows_item item result head,
                ih tail, ← ran]
              simp [asked]

end Reading

variable {files : FileSystem} {path file : Path} {asset : Asset}

def ManifestPass.reading (manifest : Path) (pass : ManifestPass) : Reading PassSource :=
  let stages := pass.stages?.getD usualStages
  match pass.code?, pass.source? with
  | some code, _ => .done (.ok ⟨pass.name, code, stages, none⟩)
  | none, some relative =>
      let path := (Manifest.base manifest).join relative
      .ask path fun
        | .ok source => .done (.ok ⟨pass.name, source, stages, some path⟩)
        | .error reason => .done (.error (.read path reason))
  | none, none => .done (.error (.missingSource manifest pass.name))

theorem ManifestPass.run_reading (pass : ManifestPass) :
    (pass.reading path).run files = pass.load files path := by
  unfold reading load
  cases pass.code? with
  | some code => rfl
  | none =>
      cases pass.source? with
      | none => rfl
      | some relative =>
          simp only [Reading.run]
          cases files.readText ((Manifest.base path).join relative) <;> rfl

theorem ManifestPass.asked_reading (pass : ManifestPass) (source : PassSource)
    (ran : (pass.reading path).run files = .ok source) :
    (pass.reading path).asked files = source.path?.toList := by
  unfold reading at ran ⊢
  cases code : pass.code? with
  | some text =>
      simp only [code] at ran ⊢
      cases ran
      rfl
  | none =>
      cases found : pass.source? with
      | none => simp [code, found, Reading.run] at ran
      | some relative =>
          simp only [code, found, Reading.run, Reading.asked] at ran ⊢
          cases readable : files.readText ((Manifest.base path).join relative) with
          | error reason => simp [readable, Reading.run] at ran
          | ok text =>
              simp only [readable] at ran ⊢
              cases ran
              rfl

def Manifest.reading (path : Path) (manifest : Manifest) : Reading Asset :=
  (Reading.each (Reading.each (ManifestPass.reading path)) manifest.subshaders).andThen
    fun subshaders => .done (.ok ⟨manifest.name?.getD (nameOfFile path), some path, subshaders⟩)

theorem Manifest.run_reading (manifest : Manifest) :
    (manifest.reading path).run files = manifest.load files path := by
  rw [reading, Reading.run_andThen, Reading.run_each]
  simp only [Reading.run_each, ManifestPass.run_reading]
  rfl

theorem Manifest.asked_reading {manifest : Manifest}
    (ran : (manifest.reading path).run files = .ok asset) :
    (manifest.reading path).asked files = asset.passes.filterMap (·.path?) := by
  rw [reading, Reading.run_andThen] at ran
  cases read : (Reading.each (Reading.each (ManifestPass.reading path))
      manifest.subshaders).run files with
  | error reason => simp [read, bind, Except.bind] at ran
  | ok subshaders =>
      simp only [read, bind, Except.bind, Reading.run, Except.ok.injEq] at ran
      have of_passes (passes : List ManifestPass) (sources : List PassSource)
          (ran : (Reading.each (ManifestPass.reading path) passes).run files = .ok sources) :
          (Reading.each (ManifestPass.reading path) passes).asked files =
            sources.filterMap (·.path?) := by
        rw [Reading.asked_each _ ManifestPass.asked_reading ran,
          List.filterMap_eq_flatMap_toList]
      rw [reading, Reading.asked_andThen read, Reading.asked_each _ of_passes read, ← ran,
        Asset.passes, List.filterMap_flatten, List.flatMap_def]
      exact List.append_nil _

namespace Asset

def reading (path : Path) : Reading Asset :=
  .ask path fun
    | .error reason => .done (.error (.read path reason))
    | .ok text =>
        if isManifest path then
          match Manifest.ofText? text.toList with
          | some manifest => manifest.reading path
          | none => .done (.error (.parse path))
        else
          let name := nameOfFile path
          .done (.ok ⟨name, some path, [[⟨name, text, usualStages, some path⟩]]⟩)

/-- Loading sees of the files what it asks for. -/
theorem run_reading (files : FileSystem) (path : Path) :
    (reading path).run files = load files path := by
  rw [reading, Reading.run, load]
  cases files.readText path with
  | error reason => rfl
  | ok text =>
      simp only
      split
      · cases Manifest.ofText? text.toList with
        | none => rfl
        | some manifest => exact manifest.run_reading
      · rfl

/-- Loading asks for the file of the shader and for those of its passes. -/
theorem mem_asked_iff (loaded : load files path = .ok asset) :
    file ∈ (reading path).asked files ↔
      file = path ∨ file ∈ asset.passes.filterMap (·.path?) := by
  rw [← run_reading, reading, Reading.run] at loaded
  rw [reading, Reading.asked, List.mem_cons]
  cases readable : files.readText path with
  | error reason => simp [readable, Reading.run] at loaded
  | ok text =>
      simp only [readable] at loaded ⊢
      split at loaded
      · next manifest =>
          rw [if_pos manifest]
          cases parsed : Manifest.ofText? text.toList with
          | none => simp [parsed, Reading.run] at loaded
          | some found =>
              simp only [parsed] at loaded ⊢
              rw [found.asked_reading loaded]
      · next bare =>
          rw [if_neg bare]
          cases loaded
          simp [passes, Reading.asked]

end Asset

end ShaderVariants
