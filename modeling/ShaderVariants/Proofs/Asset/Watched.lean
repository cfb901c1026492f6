import ShaderVariants.Proofs.Asset
import ShaderVariants.Proofs.FileSystem.Creation

/-!
The files that are watched for a shader.

They are the files that loading the shader asks for, each of them once however often and in however
many spellings it is asked for.  A change that touches none of them leaves the shader as it is.
-/
namespace ShaderVariants

/-- Every text that can be read in `files` at one of the paths, however that is spelled, can be read
in `later` too, unchanged. -/
def KeepsTextsOf (paths : List Path) (files later : FileSystem) : Prop :=
  ∀ known ∈ paths, ∀ file : Path, file.agrees known = true →
    ∀ text, files.readText file = .ok text → later.readText file = .ok text

namespace Asset

variable {files later : FileSystem} {path file : Path} {asset : Asset} {paths found : List Path}

/-- Whether no two of the paths are spellings of the same. -/
def Apart (paths : List Path) : Prop :=
  paths.Pairwise fun one other => one.agrees other = false

theorem prefix_addPath (paths : List Path) (path : Path) : paths <+: addPath paths path := by
  unfold addPath
  split
  · exact List.prefix_refl paths
  · exact List.prefix_append paths [path]

theorem exists_agrees_addPath (paths : List Path) (path : Path) :
    ∃ known ∈ addPath paths path, path.agrees known = true := by
  unfold addPath
  split
  · next spelled => exact List.any_eq_true.mp spelled
  · exact ⟨path, by simp, Path.agrees_iff.mpr rfl⟩

theorem apart_addPath (apart : Apart paths) (path : Path) : Apart (addPath paths path) := by
  unfold addPath
  split
  · exact apart
  · next unspelled =>
      refine List.pairwise_append.mpr ⟨apart, List.pairwise_singleton _ path, ?_⟩
      intro known among last only
      rw [List.mem_singleton.mp only, Bool.eq_false_iff, ne_eq, Path.agrees_iff]
      intro same
      exact unspelled (List.any_eq_true.mpr ⟨known, among, Path.agrees_iff.mpr same.symm⟩)

theorem prefix_foldl_addPath (paths found : List Path) : found <+: paths.foldl addPath found := by
  induction paths generalizing found with
  | nil => exact List.prefix_refl found
  | cons first rest ih => exact (prefix_addPath found first).trans (ih _)

theorem exists_agrees_foldl_addPath (member : file ∈ paths) (found : List Path) :
    ∃ known ∈ paths.foldl addPath found, file.agrees known = true := by
  induction paths generalizing found with
  | nil => cases member
  | cons first rest ih =>
      rcases List.mem_cons.mp member with rfl | later
      · obtain ⟨known, among, spelled⟩ := exists_agrees_addPath found file
        exact ⟨known, (prefix_foldl_addPath rest _).subset among, spelled⟩
      · exact ih later _

theorem apart_foldl_addPath (apart : Apart found) (paths : List Path) :
    Apart (paths.foldl addPath found) := by
  induction paths generalizing found with
  | nil => exact apart
  | cons first rest ih => exact ih (apart_addPath apart first)

theorem apart_watchedPaths (asset : Asset) : Apart asset.watchedPaths := by
  refine apart_foldl_addPath ?_ _
  cases asset.origin? with
  | none => exact .nil
  | some path => exact List.pairwise_singleton _ path

theorem head?_watchedPaths (origin : asset.origin? = some path) :
    asset.watchedPaths.head? = some path := by
  obtain ⟨rest, whole⟩ := prefix_foldl_addPath (asset.passes.filterMap (·.path?)) [path]
  rw [watchedPaths, origin, Option.toList_some, ← whole]
  rfl

/-- Every file that was read is watched, if perhaps in another spelling. -/
theorem exists_watched_of_mem_asked (loaded : load files path = .ok asset)
    (member : file ∈ (reading path).asked files) :
    ∃ known ∈ asset.watchedPaths, file.agrees known = true := by
  rcases (mem_asked_iff loaded).mp member with rfl | source
  · have first := head?_watchedPaths (origin?_of_load loaded)
    exact ⟨file, List.mem_of_head? first, Path.agrees_iff.mpr rfl⟩
  · exact exists_agrees_foldl_addPath source _

theorem load_of_watched (loaded : load files path = .ok asset)
    (kept : KeepsTextsOf asset.watchedPaths files later) : load later path = .ok asset := by
  refine load_of_asked loaded fun file member => ?_
  obtain ⟨known, watched, spelled⟩ := exists_watched_of_mem_asked loaded member
  exact kept known watched file spelled

/-- The watched files are what the shader depends on.  As long as they keep their texts it is loaded
as it was, and read again as it was; they are files that loading asked for, the shader's own first,
and every file it asked for is among them once. -/
theorem watchedPaths_decide (loaded : load files path = .ok asset) :
    (∀ later, KeepsTextsOf asset.watchedPaths files later →
      load later path = .ok asset ∧ asset.reload later = .ok asset) ∧
    asset.origin? = some path ∧ asset.watchedPaths.head? = some path ∧
    Apart asset.watchedPaths ∧
    (reading path).run files = .ok asset ∧
    (∀ file ∈ asset.watchedPaths, file ∈ (reading path).asked files) ∧
    ∀ file ∈ (reading path).asked files, ∃ known ∈ asset.watchedPaths, file.agrees known = true := by
  have origin := origin?_of_load loaded
  refine ⟨fun later kept => ?_, origin, head?_watchedPaths origin, apart_watchedPaths asset, ?_, ?_,
    ?_⟩
  · have again := load_of_watched loaded kept
    refine ⟨again, ?_⟩
    rw [reload, origin]
    exact again
  · rw [run_reading, loaded]
  · exact fun file => mem_asked_of_mem_watchedPaths loaded
  · exact fun file => exists_watched_of_mem_asked loaded

/-- Two passes share a source, and the third has code of its own besides the source it names. -/
def sharedSource : FileSystem where
  nodes := [(["m.toml"], .file (Utf8.encode ("[[subshader]]\npass=[\x7bsource=\"a\"\x7d," ++
      "\x7bsource=\"./a\"\x7d,\x7bsource=\"b\",code=\"c\"\x7d]").toList) none),
    (["a"], .file (Utf8.encode "A".toList) none)]

def sharing : Asset where
  name := "m"
  origin? := some ⟨"/m.toml"⟩
  subshaders := [[⟨"", "A", usualStages, some ⟨"/a"⟩⟩, ⟨"", "A", usualStages, some ⟨"/./a"⟩⟩,
    ⟨"", "c", usualStages, none⟩]]

theorem watchedPaths_decide_sharing :
    let later := sharedSource.put ["b"] (.file (Utf8.encode "B".toList) none)
    load sharedSource ⟨"/m.toml"⟩ = .ok sharing ∧
      sharing.watchedPaths = [⟨"/m.toml"⟩, ⟨"/a"⟩] ∧
      load later ⟨"/m.toml"⟩ = .ok sharing ∧ sharing.reload later = .ok sharing := by
  intro later
  have seen : load sharedSource ⟨"/m.toml"⟩ = .ok sharing ∧
      sharing.watchedPaths = [⟨"/m.toml"⟩, ⟨"/a"⟩] := by decide +kernel
  obtain ⟨loaded, watched⟩ := seen
  have extended : sharedSource.Extends later :=
    FileSystem.extends_put (by decide) (by rfl) _
  have kept : KeepsTextsOf sharing.watchedPaths sharedSource later :=
    fun _ _ file _ text => extended.readText
  exact ⟨loaded, watched, (watchedPaths_decide loaded).1 later kept⟩

end Asset

end ShaderVariants
