import ShaderVariants.Proofs.FileSystem.Canonical
import ShaderVariants.Proofs.WatchMode.Run

/-!
Which files are watched.

A turn that reads the shader again and makes the choices goes over to the files of that shader
(`iterate_watches`).  One in which a choice fails keeps the watcher it has, and with it the files of
the shader before.
-/
namespace ShaderVariants.WatchMode

variable {setup : Setup} {configuration : Configuration} {state : State} {session : Session}
  {watcher : Watcher} {shader : Asset} {files : FileSystem} {path : Path}

theorem isShader_of_components {paths : List Path} (member : path ∈ paths)
    (same : paths.map Path.components = watcher.shaderPaths.map Path.components) :
    watcher.isShader path = true := by
  have inside : path.components ∈ watcher.shaderPaths.map Path.components := by
    rw [← same]
    exact List.mem_map_of_mem member
  obtain ⟨watched, among, agreeing⟩ := List.mem_map.mp inside
  apply List.any_eq_true.mpr
  exact ⟨watched, among, decide_eq_true agreeing.symm⟩

theorem map_canonical_shaderPaths
    (working : ∀ name ∈ files.workingDirectory, FileSystem.IsName name) (session : Session) :
    (shaderPaths session files).map files.canonical = shaderPaths session files := by
  unfold shaderPaths
  cases session.shader? with
  | none => rfl
  | some shader =>
      rw [List.map_map]
      apply List.map_congr_left
      intro file _
      exact FileSystem.canonical_canonical working file

/-- The watcher that is kept watches the files of the shader already. -/
theorem shaderPaths_followFiles
    (working : ∀ name ∈ files.workingDirectory, FileSystem.IsName name) (setup : Setup)
    (watcher : Watcher) (session : Session) :
    (shaderPaths session files).map Path.components =
      (followFiles setup watcher session files).shaderPaths.map Path.components := by
  unfold followFiles
  dsimp only
  split
  · next same => exact same
  · rw [watcherFor, Watcher.new, map_canonical_shaderPaths working]

/-- Where files are only added, the files of a shader that was just read keep their canonical
paths. -/
theorem shaderPaths_of_extends {later : FileSystem} (selected : session.shader? = some shader)
    (loaded : Asset.load files path = .ok shader) (extended : FileSystem.Extends files later) :
    shaderPaths session later = shaderPaths session files := by
  rw [shaderPaths, shaderPaths, selected]
  apply List.map_congr_left
  intro file member
  obtain ⟨text, stored⟩ := Asset.readable_of_mem_watchedPaths loaded member
  cases found : files.resolve file with
  | error reason => simp [FileSystem.readText, FileSystem.read, found, bind, Except.bind] at stored
  | ok location =>
      rw [FileSystem.canonical_of_resolve found,
        FileSystem.canonical_of_resolve (extended.resolve found)]

/-- A refresh with all its choices leaves the shader that the command line names. -/
theorem load_of_refresh (follows : Follows setup.options configuration session)
    {machine last : Machine} {after : Session}
    (done : refresh setup session machine = ⟨after, last, .ok ()⟩) :
    ∃ shader, Asset.load machine.files setup.options.shader = .ok shader ∧
      after.shader? = some shader := by
  rcases refresh_cases follows machine with
    ⟨error, failed⟩ | ⟨shader, index, loaded, -, -, chosen⟩
  · rw [failed] at done
    cases done
  · obtain ⟨selection, outcome, ended, -⟩ := Session.dispatchAll_selectionCommands_keeps
      setup.oracle (session.restart shader index) machine setup.options
    rw [chosen, ended] at done
    cases done
    exact ⟨shader, loaded, rfl⟩

/-- After a turn that reads the shader again every file of it is watched, whether or not its cycle
fails, unless a choice fails and the shader has a file that was not watched before. -/
theorem iterate_watches (reached : Reached setup configuration state) (batch : List WatchEvent)
    (changed : shaderChanged batch = true)
    (working : ∀ name ∈ state.machine.files.workingDirectory, FileSystem.IsName name) :
    let after := (iterate setup batch state).1
    ∀ files, files = state.machine.files ∨ files = after.machine.files →
      (∀ error, (iterate setup batch state).2 ≠ .refreshFailed error) ∨
        (∀ path ∈ shaderPaths after.session files, state.watcher.isShader path = true) →
      ∀ path ∈ shaderPaths after.session files, after.watcher.isShader path = true := by
  have follows := follows_configured (follows_of_reached reached) batch
  have turn := turn_iterate setup batch state
  generalize iterate setup batch state = result at turn
  intro after files moment restored path member
  cases turn with
  | idle quiet unchanged => simp [changed] at unchanged
  | configured delivered unchanged => simp [changed] at unchanged
  | @refused session machine error changed failed =>
      rcases restored with restored | known
      · exact absurd rfl (restored error)
      · exact known path member
  | @refreshed session machine changed done =>
      obtain ⟨shader, loaded, selected⟩ := load_of_refresh follows done
      obtain ⟨rfl, refreshed⟩ := follows_of_refresh follows done
      have recompiled :=
        Session.recompiled_compile refreshed.consistent setup.oracle state.machine
      obtain ⟨reports, session_eq⟩ := recompiled.session_eq
      -- The cycle that follows only adds files, so that it moves no file of the shader.
      have unmoved : shaderPaths after.session files =
          shaderPaths session state.machine.files := by
        have same_shader : after.session.shader? = some shader := by
          simp only [after, cycle_eq, session_eq]
          exact selected
        have read_now : shaderPaths after.session state.machine.files =
            shaderPaths session state.machine.files := by
          rw [shaderPaths, shaderPaths, same_shader, selected]
        rcases moment with before | later
        · rw [before, read_now]
        · rw [later, ← read_now]
          apply shaderPaths_of_extends same_shader loaded
          simp only [after, cycle_eq]
          exact recompiled.extended
      have watching : after.watcher =
          followFiles setup state.watcher session state.machine.files := by
        simp only [after, cycle_eq]
      rw [unmoved] at member
      rw [watching]
      exact isShader_of_components member (shaderPaths_followFiles working setup state.watcher session)

def manifestOf (source : String) : String :=
  "[[subshader]]\n[[subshader.pass]]\nsource = \"" ++ source ++ "\"\n"

def threeSources : Machine where
  environment := { configurationDirectory? := some "/w" }
  files := { nodes := [(["tmp"], .directory), (["w"], .directory),
    (["w", "config.toml"], .file [] none),
    (["w", "lit.toml"], .file (Utf8.encode (manifestOf "a.glsl").toList) none),
    (["w", "a.glsl"], .file (Utf8.encode "#pragma multi_compile A B\n".toList) none),
    (["w", "b.glsl"], .file (Utf8.encode "#pragma multi_compile C D\n".toList) none),
    (["w", "c.glsl"], .file (Utf8.encode "#pragma multi_compile E\n".toList) none)] }

def secondOption : CycleOptions := { shader := ⟨"/w/lit.toml"⟩, selections := [(0, 1)] }

def begun : Setup × State :=
  (start .defines secondOption threeSources).2.get (by decide +kernel)

theorem start_begun : (start .defines secondOption threeSources).2 = some (begun.1, begun.2) :=
  have begins : (start .defines secondOption threeSources).2 = some begun :=
    (Option.some_get _).symm
  begins.trans (congrArg some Prod.mk.eta.symm)

theorem reached_begun : Reached begun.1 {} begun.2 :=
  reached_start (by decide) start_begun

/-- The manifest comes to name another source. -/
def switched (source : String) : State × List WatchEvent :=
  edited 0 (.replace ⟨"/w/lit.toml"⟩ (.file (Utf8.encode (manifestOf source).toList) none)) begun.2

theorem reached_switched (source : String) : Reached begun.1 {} (switched source).1 :=
  reached_edited reached_begun 0 _

theorem iterate_watches_new_source :
    let after := (iterate begun.1 (switched "b.glsl").2 (switched "b.glsl").1).1
    begun.2.watcher.isShader ⟨"/w/b.glsl"⟩ = false ∧
      ⟨"/w/b.glsl"⟩ ∈ shaderPaths after.session after.machine.files ∧
      ∀ path ∈ shaderPaths after.session after.machine.files,
        after.watcher.isShader path = true := by
  have seen : begun.2.watcher.isShader ⟨"/w/b.glsl"⟩ = false ∧
      shaderChanged (switched "b.glsl").2 = true ∧
      (switched "b.glsl").1.machine.files.workingDirectory = [] ∧
      (iterate begun.1 (switched "b.glsl").2 (switched "b.glsl").1).2 matches .cycle _ ∧
      ⟨"/w/b.glsl"⟩ ∈ shaderPaths
        (iterate begun.1 (switched "b.glsl").2 (switched "b.glsl").1).1.session
        (iterate begun.1 (switched "b.glsl").2 (switched "b.glsl").1).1.machine.files := by
    decide +kernel
  obtain ⟨new, changed, top, compiled, listed⟩ := seen
  have working : ∀ name ∈ (switched "b.glsl").1.machine.files.workingDirectory,
      FileSystem.IsName name := by simp [top]
  refine ⟨new, listed, ?_⟩
  apply iterate_watches (reached_switched "b.glsl") _ changed working _ (.inr rfl)
  apply Or.inl
  intro error refused
  rw [refused] at compiled
  cases compiled

/-- The shader is read again, a choice fails, and the new source of the shader is not watched. -/
theorem iterate_misses_new_source :
    let after := (iterate begun.1 (switched "c.glsl").2 (switched "c.glsl").1).1
    Reached begun.1 {} (switched "c.glsl").1 ∧ shaderChanged (switched "c.glsl").2 = true ∧
      ((switched "c.glsl").1.session.refresh (switched "c.glsl").1.machine.files).2 = .ok () ∧
      ⟨"/w/c.glsl"⟩ ∈ shaderPaths after.session after.machine.files ∧
      after.watcher.isShader ⟨"/w/c.glsl"⟩ = false := by
  have seen : shaderChanged (switched "c.glsl").2 = true ∧
      ((switched "c.glsl").1.session.refresh (switched "c.glsl").1.machine.files).2 = .ok () ∧
      ⟨"/w/c.glsl"⟩ ∈ shaderPaths
        (iterate begun.1 (switched "c.glsl").2 (switched "c.glsl").1).1.session
        (iterate begun.1 (switched "c.glsl").2 (switched "c.glsl").1).1.machine.files ∧
      (iterate begun.1 (switched "c.glsl").2 (switched "c.glsl").1).1.watcher.isShader
        ⟨"/w/c.glsl"⟩ = false := by
    decide +kernel
  obtain ⟨changed, refreshed, listed, unwatched⟩ := seen
  exact ⟨reached_switched "c.glsl", changed, refreshed, listed, unwatched⟩

end ShaderVariants.WatchMode
