import Mathlib.Data.List.Forall2
import ShaderVariants.Proofs.Asset.Reading

/-!
Loading a shader again.

A shader knows the file it came from and the files of its passes, all of which were read, and files
that can still be read as before give the same shader.
-/
namespace ShaderVariants

variable {files later : FileSystem} {path : Path} {asset : Asset}

/-- Every text that can be read in `files` can be read in `later` too, unchanged. -/
def KeepsTexts (files later : FileSystem) : Prop :=
  ∀ path text, files.readText path = .ok text → later.readText path = .ok text

theorem mapM_eq_ok_iff {α β ε : Type} {f : α → Except ε β} {items : List α} {results : List β} :
    items.mapM f = .ok results ↔
      List.Forall₂ (fun item result => f item = .ok result) items results := by
  induction items generalizing results with
  | nil => cases results <;> simp [pure, Except.pure]
  | cons item rest ih =>
      rw [List.mapM_cons]
      cases head : f item with
      | error reason => simp [bind, Except.bind, List.forall₂_cons_left_iff, head]
      | ok result =>
          cases tail : rest.mapM f with
          | error reason =>
              have none_left (others : List β) :
                  ¬ List.Forall₂ (fun item result => f item = .ok result) rest others := by
                rw [← ih, tail]
                simp
              simp [bind, Except.bind, List.forall₂_cons_left_iff, none_left]
          | ok others =>
              have unique (found : List β) :
                  List.Forall₂ (fun item result => f item = .ok result) rest found ↔
                    others = found := by
                rw [← ih, tail, Except.ok.injEq]
              simp [bind, Except.bind, pure, Except.pure, List.forall₂_cons_left_iff, head, unique,
                eq_comm]

theorem exists_of_mem_forall₂ {α β : Type} {related : α → β → Prop} {items : List α}
    {results : List β} (pairs : List.Forall₂ related items results) {result : β}
    (member : result ∈ results) : ∃ item ∈ items, related item result := by
  induction pairs with
  | nil => cases member
  | cons here rest ih =>
      rcases List.mem_cons.mp member with rfl | below
      · exact ⟨_, List.mem_cons_self, here⟩
      · obtain ⟨item, inside, found⟩ := ih below
        exact ⟨item, List.mem_cons_of_mem _ inside, found⟩

theorem Manifest.load_eq_ok_iff {manifest : Manifest} :
    manifest.load files path = .ok asset ↔
      ∃ subshaders, manifest.subshaders.mapM (fun passes =>
          passes.mapM (ManifestPass.load files path)) = .ok subshaders ∧
        asset = ⟨manifest.name?.getD (nameOfFile path), some path, subshaders⟩ := by
  unfold Manifest.load
  cases manifest.subshaders.mapM fun passes => passes.mapM (ManifestPass.load files path) with
  | error reason => simp [bind, Except.bind]
  | ok subshaders => simp [bind, Except.bind, pure, Except.pure, eq_comm]

theorem ManifestPass.readText_of_load {pass : ManifestPass} {source : PassSource} {file : Path}
    (loaded : pass.load files path = .ok source) (from_file : source.path? = some file) :
    files.readText file = .ok source.source := by
  unfold load at loaded
  cases code : pass.code? with
  | some text =>
      simp only [code] at loaded
      cases loaded
      cases from_file
  | none =>
      cases found : pass.source? with
      | none => simp [code, found] at loaded
      | some relative =>
          simp only [code, found] at loaded
          cases readable : files.readText ((Manifest.base path).join relative) with
          | error reason => simp [readable] at loaded
          | ok text =>
              simp only [readable] at loaded
              cases loaded
              cases from_file
              exact readable

namespace Asset

/-- A shader that is loaded has been read as a manifest, or is itself the source of its only
pass. -/
theorem load_cases (loaded : load files path = .ok asset) :
    ∃ text, files.readText path = .ok text ∧
      ((∃ manifest, Manifest.ofText? text.toList = some manifest ∧
          manifest.load files path = .ok asset) ∨
        asset = ⟨nameOfFile path, some path,
          [[⟨nameOfFile path, text, usualStages, some path⟩]]⟩) := by
  unfold load at loaded
  cases readable : files.readText path with
  | error reason => simp [readable] at loaded
  | ok text =>
      refine ⟨text, rfl, ?_⟩
      simp only [readable] at loaded
      split at loaded
      · cases parsed : Manifest.ofText? text.toList with
        | none => simp [parsed] at loaded
        | some manifest =>
            simp only [parsed] at loaded
            exact .inl ⟨manifest, rfl, loaded⟩
      · cases loaded
        exact .inr rfl

theorem origin?_of_load (loaded : load files path = .ok asset) : asset.origin? = some path := by
  obtain ⟨text, -, ⟨manifest, -, loaded⟩ | rfl⟩ := load_cases loaded
  · obtain ⟨subshaders, -, rfl⟩ := Manifest.load_eq_ok_iff.mp loaded
    rfl
  · rfl

theorem reload_cases {reloaded : Asset} (read : asset.reload files = .ok reloaded) :
    (asset.origin? = none ∧ reloaded = asset) ∨
    ∃ path, asset.origin? = some path ∧ load files path = .ok reloaded := by
  unfold reload at read
  cases origin : asset.origin? with
  | none =>
      rw [origin] at read
      cases read
      exact .inl ⟨rfl, rfl⟩
  | some path =>
      rw [origin] at read
      exact .inr ⟨path, rfl, read⟩

/-- The source of a pass that was read from a file is the text of that file. -/
theorem readText_of_load (loaded : load files path = .ok asset) {pass : PassSource} {file : Path}
    (member : pass ∈ asset.passes) (from_file : pass.path? = some file) :
    files.readText file = .ok pass.source := by
  obtain ⟨text, readable, ⟨manifest, -, loaded⟩ | rfl⟩ := load_cases loaded
  · obtain ⟨subshaders, read, rfl⟩ := Manifest.load_eq_ok_iff.mp loaded
    obtain ⟨passes, inside, here⟩ := List.mem_flatten.mp member
    obtain ⟨declared, -, sources⟩ := exists_of_mem_forall₂ (mapM_eq_ok_iff.mp read) inside
    obtain ⟨declaration, -, result⟩ := exists_of_mem_forall₂ (mapM_eq_ok_iff.mp sources) here
    exact ManifestPass.readText_of_load result from_file
  · have only : pass = ⟨nameOfFile path, text, usualStages, some path⟩ := by
      simpa [passes] using member
    subst only
    cases from_file
    exact readable

theorem readable_of_load (loaded : load files path = .ok asset) :
    ∃ text, files.readText path = .ok text := by
  obtain ⟨text, readable, -⟩ := load_cases loaded
  exact ⟨text, readable⟩

theorem readable_of_mem_asked (loaded : load files path = .ok asset) {file : Path}
    (member : file ∈ (reading path).asked files) : ∃ text, files.readText file = .ok text := by
  rcases (mem_asked_iff loaded).mp member with rfl | source
  · exact readable_of_load loaded
  · obtain ⟨pass, inside, from_file⟩ := List.mem_filterMap.mp source
    exact ⟨pass.source, readText_of_load loaded inside from_file⟩

/-- What was loaded once is loaded again as long as the files that were read keep their texts. -/
theorem load_of_asked (loaded : load files path = .ok asset)
    (kept : ∀ file ∈ (reading path).asked files, ∀ text,
      files.readText file = .ok text → later.readText file = .ok text) :
    load later path = .ok asset := by
  rw [← loaded, ← run_reading, ← run_reading]
  refine Reading.run_of_asked fun file member => ?_
  obtain ⟨text, readable⟩ := readable_of_mem_asked loaded member
  rw [kept file member text readable, readable]

theorem load_keeps (kept : KeepsTexts files later) (loaded : load files path = .ok asset) :
    load later path = .ok asset :=
  load_of_asked loaded fun file _ => kept file

theorem mem_foldl_addPath {paths found : List Path} {file : Path}
    (member : file ∈ paths.foldl addPath found) : file ∈ found ∨ file ∈ paths := by
  induction paths generalizing found with
  | nil => exact .inl member
  | cons first rest ih =>
      rcases ih member with early | later
      · unfold addPath at early
        split at early
        · exact .inl early
        · rcases List.mem_append.mp early with before | last
          · exact .inl before
          · exact .inr (by simp [List.mem_singleton.mp last])
      · exact .inr (List.mem_cons_of_mem first later)

/-- Every file that is watched was read. -/
theorem mem_asked_of_mem_watchedPaths (loaded : load files path = .ok asset) {file : Path}
    (member : file ∈ asset.watchedPaths) : file ∈ (reading path).asked files := by
  rw [mem_asked_iff loaded]
  rcases mem_foldl_addPath member with origin | source
  · rw [origin?_of_load loaded] at origin
    exact .inl (List.mem_singleton.mp origin)
  · exact .inr source

theorem readable_of_mem_watchedPaths (loaded : load files path = .ok asset) {file : Path}
    (member : file ∈ asset.watchedPaths) : ∃ text, files.readText file = .ok text :=
  readable_of_mem_asked loaded (mem_asked_of_mem_watchedPaths loaded member)

/-- Reading again what was read again gives the same. -/
theorem reload_reload {reloaded : Asset} (read : asset.reload files = .ok reloaded) :
    reloaded.reload files = .ok reloaded := by
  rcases reload_cases read with ⟨origin, rfl⟩ | ⟨path, origin, loaded⟩
  · exact read
  · rw [reload, origin?_of_load loaded]
    exact loaded

end Asset

end ShaderVariants
