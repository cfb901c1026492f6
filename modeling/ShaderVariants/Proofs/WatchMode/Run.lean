import ShaderVariants.Proofs.Asset
import ShaderVariants.Proofs.Session.Compilation
import ShaderVariants.Proofs.Session.Setup
import ShaderVariants.WatchMode

/-!
Runs of watch mode.

`Reached` are the states that watching leads to: turns of the loop with any messages, and between
them anything that may happen to the files and to the watcher.  `Follows` is what each turn keeps,
whatever fails in it: the session goes with the command line and with the last configuration that
was delivered.
-/
namespace ShaderVariants.WatchMode

variable {setup : Setup} {options : CycleOptions} {configuration : Configuration} {state : State}
  {session : Session} {machine : Machine} {shader : Asset}

/-- The states that watching leads to, each with the last configuration delivered so far. -/
inductive Reached (setup : Setup) : Configuration → State → Prop where
  | started {machine loaded : Machine} {configuration : Configuration} {state : State}
      (read : Configuration.load machine = .ok (configuration, loaded))
      (began : (start setup.oracle setup.options machine).2 = some (setup, state)) :
      Reached setup configuration state
  | turned {configuration : Configuration} {state : State}
      (before : Reached setup configuration state) (batch : List WatchEvent) :
      Reached setup ((newConfiguration? batch).getD configuration) (iterate setup batch state).1
  | disturbed {configuration : Configuration} {state : State}
      (before : Reached setup configuration state) (watcher : Watcher) (machine : Machine) :
      Reached setup configuration { state with watcher, machine }

/-- The state and the messages after an edit, which changes nothing where the system refuses it. -/
def edited (now : Nat) (change : Edit) (state : State) : State × List WatchEvent :=
  (edit now change state).toOption.getD (state, [])

/-- An edit by another program is one of the things that may happen between two turns. -/
theorem reached_edited (reached : Reached setup configuration state) (now : Nat) (change : Edit) :
    Reached setup configuration (edited now change state).1 := by
  unfold edited edit
  cases applied : state.machine.files.apply change with
  | error reason =>
      simp only [applied]
      exact reached
  | ok files =>
      simp only [applied]
      exact .disturbed reached _ _

/-- How the session goes with the command line and a configuration: it is set up as they say and has
the shader asked for, and the selection is the one asked for wherever the shader offers that. -/
structure Follows (options : CycleOptions) (configuration : Configuration) (session : Session) :
    Prop where
  consistent : session.Consistent
  compiler : session.compiler = options.compiler?.getD configuration.compilerTarget
  settings : session.settings = configuration.variant
  shader : ∃ shader, session.shader? = some shader ∧ shader.origin? = some options.shader
  first : options.pass? = none → session.selection.active?.getD 0 = 0
  asked : ∀ pass, options.Offered session.passes pass → session.selection = options.asked pass

/-- A session for a command line and a configuration, with a shader just read and its first pass
active. -/
def fresh (options : CycleOptions) (configuration : Configuration) (shader : Asset) : Session :=
  (Session.new (options.compiler?.getD configuration.compilerTarget)
    configuration.variant).restart shader 0

theorem consistent_fresh (options : CycleOptions) (configuration : Configuration)
    (shader : Asset) : (fresh options configuration shader).Consistent := by
  have consistent := Session.consistent_selectShader (Session.consistent_new
    (options.compiler?.getD configuration.compilerTarget) configuration.variant) (some shader)
  rwa [Session.selectShader_of_none rfl] at consistent

theorem dispatchAll_setupCommands (oracle : Oracle) (configuration : Configuration)
    (loaded : Asset.load machine.files options.shader = .ok shader) :
    (Application.sessionFor configuration).dispatchAll oracle options.setupCommands machine =
      (fresh options configuration shader).dispatchAll oracle options.selectionCommands machine :=
  Session.dispatchAll_setupCommands_of_load oracle configuration.compilerTarget
    configuration.variant loaded

theorem load_of_setup {oracle : Oracle}
    (done : ((Application.sessionFor configuration).dispatchAll oracle options.setupCommands
      machine).outcome = .ok ()) :
    ∃ shader, Asset.load machine.files options.shader = .ok shader := by
  obtain ⟨shader, loaded, -⟩ := (Session.setup_succeeds_iff ..).mp done
  exact ⟨shader, loaded⟩

/-- The choices of the command line bring a session whose shader has just been read to what is asked
for, or fail where that is not offered. -/
theorem follows_selectionCommands {index : Nat} (oracle : Oracle)
    (consistent : (session.restart shader index).Consistent)
    (compiler : session.compiler = options.compiler?.getD configuration.compilerTarget)
    (settings : session.settings = configuration.variant)
    (origin : shader.origin? = some options.shader)
    (first : options.pass? = none → index = 0) :
    Follows options configuration ((session.restart shader index).dispatchAll oracle
      options.selectionCommands machine).session := by
  have kept := Session.consistent_dispatchAll consistent oracle options.selectionCommands machine
  have as_asked (pass : Pass)
      (offered : options.Offered (session.restart shader index).passes pass) :
      (session.restart shader index).dispatchAll oracle options.selectionCommands machine =
        ⟨{ session.restart shader index with selection := options.asked pass }, machine, .ok ()⟩ :=
    Session.dispatchAll_of_offered rfl rfl first offered
  obtain ⟨selection, outcome, ended, active⟩ :=
    Session.dispatchAll_selectionCommands_keeps oracle (session.restart shader index) machine
      options
  rw [ended] at kept as_asked ⊢
  refine ⟨kept, compiler, settings, ⟨shader, rfl, origin⟩, fun none_given => ?_, ?_⟩
  · rw [active none_given, first none_given]
    show (Selection.starting _ 0).active?.getD 0 = 0
    unfold Selection.starting
    split <;> rfl
  · intro pass offered
    have session_eq := congrArg Session.Step.session (as_asked pass offered)
    exact congrArg Session.selection session_eq

theorem follows_applyConfiguration {earlier : Configuration}
    (follows : Follows options earlier session) (configuration : Configuration) :
    Follows options configuration (applyConfiguration options configuration session) := by
  have consistent := follows.consistent
  have compiler := follows.compiler
  unfold applyConfiguration
  cases given : options.compiler? with
  | none =>
      exact ⟨⟨consistent.indexed_eq, consistent.suits, consistent.quiet⟩, by rw [given]; rfl, rfl,
        follows.shader, follows.first, follows.asked⟩
  | some target =>
      rw [given] at compiler
      exact ⟨⟨consistent.indexed_eq, consistent.suits, consistent.quiet⟩,
        by rw [given]; exact compiler, rfl, follows.shader, follows.first, follows.asked⟩

/-- A refresh reads the shader of the command line and then makes the choices, or changes
nothing. -/
theorem refresh_cases (follows : Follows setup.options configuration session)
    (machine : Machine) :
    (∃ error, refresh setup session machine = ⟨session, machine, .error error⟩) ∨
    ∃ shader index, Asset.load machine.files setup.options.shader = .ok shader ∧
      (setup.options.pass? = none → index = 0) ∧ (session.restart shader index).Consistent ∧
      refresh setup session machine =
        (session.restart shader index).dispatchAll setup.oracle setup.options.selectionCommands
          machine := by
  rcases Session.refresh_cases session machine.files with
    ⟨error, failed⟩ | ⟨shader, reloaded, selected, read, done⟩
  · exact .inl ⟨error, by simp only [refresh, Session.dispatchAll, Session.dispatch, failed]⟩
  · have consistent :=
      Session.consistent_dispatchAll follows.consistent setup.oracle [.refresh] machine
    obtain ⟨origin_shader, same, origin⟩ := follows.shader
    rw [selected] at same
    cases same
    rw [Asset.reload, origin] at read
    simp only [Session.dispatchAll, Session.dispatch, done] at consistent
    refine .inr ⟨reloaded, session.refreshedIndex reloaded, read, ?_, consistent, ?_⟩
    · intro none_given
      rw [Session.refreshedIndex, follows.first none_given, Nat.zero_min]
    · simp only [refresh, Session.dispatchAll, Session.dispatch, done]

theorem follows_refresh (follows : Follows setup.options configuration session)
    (machine : Machine) :
    Follows setup.options configuration (refresh setup session machine).session := by
  rcases refresh_cases follows machine with
    ⟨error, failed⟩ | ⟨shader, index, loaded, first, consistent, chosen⟩
  · rw [failed]
    exact follows
  · rw [chosen]
    exact follows_selectionCommands setup.oracle consistent follows.compiler follows.settings
      (Asset.origin?_of_load loaded) first

theorem machine_refresh (follows : Follows setup.options configuration session)
    (machine : Machine) : (refresh setup session machine).machine = machine := by
  rcases refresh_cases follows machine with
    ⟨error, failed⟩ | ⟨shader, index, loaded, first, consistent, chosen⟩
  · rw [failed]
  · obtain ⟨selection, outcome, ended, -⟩ := Session.dispatchAll_selectionCommands_keeps
      setup.oracle (session.restart shader index) machine setup.options
    rw [chosen, ended]

/-- What is known of a refresh, however it ended. -/
theorem follows_of_refresh {after : Session} {last : Machine} {outcome : Except SessionError Unit}
    (follows : Follows setup.options configuration session)
    (ended : refresh setup session machine = ⟨after, last, outcome⟩) :
    last = machine ∧ Follows setup.options configuration after := by
  have untouched := machine_refresh follows machine
  have refreshed := follows_refresh follows machine
  rw [ended] at untouched refreshed
  exact ⟨untouched, refreshed⟩

theorem follows_compile (follows : Follows options configuration session) (oracle : Oracle)
    (machine : Machine) :
    Follows options configuration (session.compile oracle machine).session := by
  have kept : (session.compile oracle machine).session.Consistent := by
    have settled := Session.settled_compile follows.consistent oracle machine
    generalize session.compile oracle machine = step at settled
    cases settled with
    | failed => exact follows.consistent
    | done after => exact after
  obtain ⟨reports, session_eq⟩ :=
    (Session.recompiled_compile follows.consistent oracle machine).session_eq
  rw [session_eq] at kept ⊢
  exact ⟨kept, follows.compiler, follows.settings, follows.shader, follows.first, follows.asked⟩

theorem cycle_eq (setup : Setup) (state : State) :
    cycle setup state =
      let step := state.session.compile setup.oracle state.machine
      ({ state with session := step.session, machine := step.machine },
        match step.outcome with
        | .ok () => .cycle (Application.cycleText step.session)
        | .error error => .cycleFailed error) := by
  rw [cycle, Session.compileAndPrint_eq]
  obtain ⟨session, machine, outcome⟩ := state.session.compile setup.oracle state.machine
  cases outcome <;> rfl

/-- The session after the configuration that a batch delivers, if it does. -/
def configured (setup : Setup) (batch : List WatchEvent) (session : Session) : Session :=
  match newConfiguration? batch with
  | some configuration => applyConfiguration setup.options configuration session
  | none => session

/-- The last configuration of a batch. -/
theorem newConfiguration?_eq_findSome? (batch : List WatchEvent) :
    newConfiguration? batch = batch.reverse.findSome? fun
      | .configurationChanged configuration => some configuration
      | _ => none := by
  rw [newConfiguration?, List.foldl_eq_foldr_reverse]
  induction batch.reverse with
  | nil => rfl
  | cons event rest ih => cases event <;> simp [ih]

theorem newConfiguration?_append (first second : List WatchEvent) :
    newConfiguration? (first ++ second) =
      (newConfiguration? second).or (newConfiguration? first) := by
  simp only [newConfiguration?_eq_findSome?, List.reverse_append, List.findSome?_append]

theorem shaderChanged_append (first second : List WatchEvent) :
    shaderChanged (first ++ second) = (shaderChanged first || shaderChanged second) :=
  List.any_append

theorem newConfiguration?_append_getD (first second : List WatchEvent)
    (configuration : Configuration) :
    (newConfiguration? (first ++ second)).getD configuration =
      (newConfiguration? second).getD ((newConfiguration? first).getD configuration) := by
  rw [newConfiguration?_append]
  cases newConfiguration? second <;> rfl

theorem mem_of_newConfiguration? {events : List WatchEvent}
    (delivered : newConfiguration? events = some configuration) :
    .configurationChanged configuration ∈ events := by
  rw [newConfiguration?_eq_findSome?] at delivered
  obtain ⟨event, member, found⟩ := List.exists_of_findSome?_eq_some delivered
  split at found
  · cases found
    exact List.mem_reverse.mp member
  · cases found

/-- If all the configurations in a list of messages are one, and there is one, it is the last. -/
theorem newConfiguration?_of_mem {events : List WatchEvent}
    (member : .configurationChanged configuration ∈ events)
    (only : ∀ other, .configurationChanged other ∈ events → other = configuration) :
    newConfiguration? events = some configuration := by
  cases delivered : newConfiguration? events with
  | some last => rw [only last (mem_of_newConfiguration? delivered)]
  | none =>
      rw [newConfiguration?_eq_findSome?, List.findSome?_eq_none_iff] at delivered
      have skipped := delivered _ (List.mem_reverse.mpr member)
      cases skipped

/-- What one turn of the loop can come to. -/
inductive Turn (setup : Setup) (batch : List WatchEvent) (state : State) :
    State × Reaction → Prop where
  | idle (quiet : newConfiguration? batch = none) (unchanged : shaderChanged batch = false) :
      Turn setup batch state (state, .idle)
  | configured {configuration : Configuration}
      (delivered : newConfiguration? batch = some configuration)
      (unchanged : shaderChanged batch = false) :
      Turn setup batch state
        (cycle setup { state with session := configured setup batch state.session })
  | refused {session : Session} {machine : Machine} {error : SessionError}
      (changed : shaderChanged batch = true)
      (failed : refresh setup (configured setup batch state.session) state.machine =
        ⟨session, machine, .error error⟩) :
      Turn setup batch state ({ state with session, machine }, .refreshFailed error)
  | refreshed {session : Session} {machine : Machine} (changed : shaderChanged batch = true)
      (done : refresh setup (configured setup batch state.session) state.machine =
        ⟨session, machine, .ok ()⟩) :
      Turn setup batch state
        (cycle setup ⟨session, followFiles setup state.watcher session machine.files, machine⟩)

theorem iterate_eq (setup : Setup) (batch : List WatchEvent) (state : State) :
    iterate setup batch state =
      let session := configured setup batch state.session
      if shaderChanged batch then
        let step := refresh setup session state.machine
        match step.outcome with
        | .error error =>
            ({ state with session := step.session, machine := step.machine }, .refreshFailed error)
        | .ok () =>
            cycle setup ⟨step.session,
              followFiles setup state.watcher step.session step.machine.files, step.machine⟩
      else if (newConfiguration? batch).isSome then cycle setup { state with session }
      else ({ state with session }, .idle) := rfl

theorem turn_iterate (setup : Setup) (batch : List WatchEvent) (state : State) :
    Turn setup batch state (iterate setup batch state) := by
  rw [iterate_eq]
  by_cases changed : shaderChanged batch = true
  · simp only [if_pos changed]
    cases refreshed : refresh setup (configured setup batch state.session) state.machine with
    | mk session machine outcome =>
        cases outcome with
        | ok done => exact .refreshed changed refreshed
        | error error => exact .refused changed refreshed
  · have unchanged : shaderChanged batch = false := by simpa using changed
    simp only [if_neg changed]
    cases delivered : newConfiguration? batch with
    | some configuration => exact .configured delivered unchanged
    | none =>
        have same : configured setup batch state.session = state.session := by
          rw [configured, delivered]
        rw [same]
        exact .idle delivered unchanged

theorem follows_configured (follows : Follows setup.options configuration session)
    (batch : List WatchEvent) :
    Follows setup.options ((newConfiguration? batch).getD configuration)
      (configured setup batch session) := by
  unfold configured
  cases newConfiguration? batch with
  | none => exact follows
  | some delivered => exact follows_applyConfiguration follows delivered

theorem follows_cycle (follows : Follows setup.options configuration state.session) :
    Follows setup.options configuration (cycle setup state).1.session := by
  rw [cycle_eq]
  exact follows_compile follows setup.oracle state.machine

/-- A turn keeps to the command line and to the last configuration, whatever fails in it. -/
theorem follows_iterate (follows : Follows setup.options configuration state.session)
    (batch : List WatchEvent) :
    Follows setup.options ((newConfiguration? batch).getD configuration)
      (iterate setup batch state).1.session := by
  have configured_follows := follows_configured follows batch
  have turn := turn_iterate setup batch state
  generalize iterate setup batch state = result at turn
  cases turn with
  | idle quiet unchanged =>
      rw [quiet]
      exact follows
  | configured delivered unchanged => exact follows_cycle configured_follows
  | refused changed failed => exact (follows_of_refresh configured_follows failed).2
  | refreshed changed done => exact follows_cycle (follows_of_refresh configured_follows done).2

/-- A turn adds files and changes none. -/
theorem extends_iterate (follows : Follows setup.options configuration state.session)
    (batch : List WatchEvent) :
    FileSystem.Extends state.machine.files (iterate setup batch state).1.machine.files := by
  have follows_delivered := follows_configured follows batch
  have extends_cycle (before : State) (consistent : before.session.Consistent) :
      FileSystem.Extends before.machine.files (cycle setup before).1.machine.files := by
    simp only [cycle_eq]
    exact (Session.recompiled_compile consistent setup.oracle before.machine).extended
  have turn := turn_iterate setup batch state
  generalize iterate setup batch state = result at turn
  cases turn with
  | idle quiet unchanged => exact .refl _
  | configured delivered unchanged =>
      exact extends_cycle { state with session := configured setup batch state.session }
        follows_delivered.consistent
  | refused changed failed =>
      obtain ⟨rfl, -⟩ := follows_of_refresh follows_delivered failed
      exact .refl _
  | @refreshed session machine changed done =>
      obtain ⟨rfl, refreshed⟩ := follows_of_refresh follows_delivered done
      exact extends_cycle ⟨session, _, state.machine⟩ refreshed.consistent

theorem watcher_iterate (follows : Follows setup.options configuration state.session)
    (batch : List WatchEvent) :
    let after := (iterate setup batch state).1.watcher
    after = state.watcher ∨
      shaderChanged batch = true ∧
        ∃ session, after = watcherFor setup session state.machine.files := by
  have turn := turn_iterate setup batch state
  generalize iterate setup batch state = result at turn
  cases turn with
  | idle quiet unchanged => exact .inl rfl
  | configured delivered unchanged => exact .inl (by rw [cycle_eq])
  | refused changed failed => exact .inl rfl
  | @refreshed session machine changed done =>
      obtain ⟨rfl, -⟩ := follows_of_refresh (follows_configured follows batch) done
      simp only [cycle_eq, followFiles]
      split
      · exact .inl rfl
      · exact .inr ⟨changed, session, rfl⟩

theorem start_ok {oracle : Oracle} {loaded : Machine}
    (read : Configuration.load machine = .ok (configuration, loaded))
    (began : (start oracle options machine).2 = some (setup, state)) :
    setup.oracle = oracle ∧ setup.options = options ∧ ∃ session after,
      (Application.sessionFor configuration).dispatchAll oracle options.setupCommands loaded =
        ⟨session, after, .ok ()⟩ ∧
      state.session = (session.compile oracle after).session ∧
      state.machine = (session.compile oracle after).machine := by
  simp only [start, read, Application.startCycle] at began
  cases ended : (Application.sessionFor configuration).dispatchAll oracle options.setupCommands
      loaded with
  | mk session after outcome =>
      cases outcome with
      | error error => simp [ended] at began
      | ok done =>
          rw [ended] at began
          simp only [Session.compileAndPrint_eq] at began
          cases compiled : (session.compile oracle after).outcome with
          | error error => simp [compiled] at began
          | ok done =>
              simp only [compiled, Option.some.injEq, Prod.mk.injEq] at began
              obtain ⟨rfl, rfl⟩ := began
              exact ⟨rfl, rfl, session, after, rfl, rfl, rfl⟩

theorem follows_start {loaded : Machine}
    (read : Configuration.load machine = .ok (configuration, loaded))
    (began : (start setup.oracle setup.options machine).2 = some (setup, state)) :
    Follows setup.options configuration state.session := by
  obtain ⟨-, -, session, after, ended, session_eq, -⟩ := start_ok read began
  obtain ⟨shader, found⟩ := load_of_setup (by rw [ended])
  have follows : Follows setup.options configuration
      ((fresh setup.options configuration shader).dispatchAll setup.oracle
        setup.options.selectionCommands loaded).session :=
    follows_selectionCommands setup.oracle (consistent_fresh _ _ _) rfl rfl
      (Asset.origin?_of_load found) fun _ => rfl
  rw [← dispatchAll_setupCommands setup.oracle configuration found, ended] at follows
  rw [session_eq]
  exact follows_compile follows setup.oracle after

theorem follows_of_reached (reached : Reached setup configuration state) :
    Follows setup.options configuration state.session := by
  induction reached with
  | started read began => exact follows_start read began
  | turned before batch ih => exact follows_iterate ih batch
  | disturbed before watcher machine ih => exact ih

theorem reached_start {oracle : Oracle}
    (read : (Configuration.load machine).toOption.map Prod.fst = some configuration)
    (began : (start oracle options machine).2 = some (setup, state)) :
    Reached setup configuration state := by
  cases loading : Configuration.load machine with
  | error error => simp [loading, Except.toOption] at read
  | ok pair =>
      obtain ⟨newest, loaded⟩ := pair
      simp only [loading, Except.toOption, Option.map_some, Option.some.injEq] at read
      subst read
      obtain ⟨rfl, rfl, -⟩ := start_ok loading began
      exact .started loading began

theorem start_watches {oracle : Oracle} {loaded : Machine}
    (read : Configuration.load machine = .ok (configuration, loaded))
    (began : (start oracle options machine).2 = some (setup, state)) :
    setup.configurationFile? = (Configuration.filePath loaded.environment).toOption ∧
      state.watcher = watcherFor setup state.session state.machine.files := by
  simp only [start, read] at began
  split at began
  · cases began
  · cases began
    exact ⟨rfl, rfl⟩

theorem extends_start {oracle : Oracle} {loaded : Machine}
    (read : Configuration.load machine = .ok (configuration, loaded))
    (began : (start oracle options machine).2 = some (setup, state)) :
    FileSystem.Extends loaded.files state.machine.files ∧
      ∃ shader, Asset.load loaded.files options.shader = .ok shader ∧
        state.session.shader? = some shader := by
  obtain ⟨-, -, session, after, ended, session_eq, machine_eq⟩ := start_ok read began
  obtain ⟨shader, found⟩ := load_of_setup (by rw [ended])
  have kept := Session.consistent_dispatchAll (consistent_fresh options configuration shader)
    oracle options.selectionCommands loaded
  obtain ⟨selection, outcome, made, -⟩ := Session.dispatchAll_selectionCommands_keeps oracle
    (fresh options configuration shader) loaded options
  rw [dispatchAll_setupCommands oracle configuration found, made] at ended
  rw [made] at kept
  cases ended
  have recompiled := Session.recompiled_compile kept oracle loaded
  obtain ⟨reports, compiled⟩ := recompiled.session_eq
  refine ⟨?_, shader, found, ?_⟩
  · rw [machine_eq]
    exact recompiled.extended
  · rw [session_eq, compiled]
    rfl

end ShaderVariants.WatchMode
