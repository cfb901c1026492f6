import ShaderVariants.Proofs.WatchMode.Run

/-!
What a turn of the loop compiles.

A turn that reads the shader again and makes the choices once more leaves what a new session would
be set up to (`iterate_as_fresh`).  One that could not make them leaves a selection nobody asked
for, and a later turn that does not read the shader compiles it all the same.
-/
namespace ShaderVariants.WatchMode

variable {setup : Setup} {options : CycleOptions} {configuration : Configuration} {state : State}
  {session : Session} {machine last : Machine} {shader : Asset}

/-- Choices that succeed lead from any pass to what they lead to from the first one. -/
theorem choices_as_fresh {base : Session} {index : Nat} {oracle : Oracle}
    (compiler : base.compiler = options.compiler?.getD configuration.compilerTarget)
    (settings : base.settings = configuration.variant)
    (first : options.pass? = none → index = 0)
    (done : (base.restart shader index).dispatchAll oracle options.selectionCommands machine =
      ⟨session, last, .ok ()⟩) (other : Machine) :
    (fresh options configuration shader).dispatchAll oracle options.selectionCommands other =
      ⟨session.clearReports, other, .ok ()⟩ := by
  have succeeded : ((base.restart shader index).dispatchAll oracle options.selectionCommands
      machine).outcome = .ok () := by rw [done]
  rcases Session.offered_of_dispatchAll rfl rfl first succeeded with
    ⟨pass, offered⟩ | ⟨empty, nothing⟩
  · rw [Session.dispatchAll_of_offered rfl rfl first offered] at done
    have as_asked : (fresh options configuration shader).dispatchAll oracle
        options.selectionCommands other =
        ⟨{ fresh options configuration shader with selection := options.asked pass }, other,
          .ok ()⟩ := Session.dispatchAll_of_offered rfl rfl (fun _ => rfl) offered
    cases done
    rw [as_asked, Session.clearReports, Session.restart, compiler, settings]
    rfl
  · rw [nothing] at done ⊢
    cases done
    have idle (index : Nat) :
        Selection.starting (Session.indexed (some shader)).1 index = .empty := by
      have no_pass : (Session.indexed (some shader)).1 = [] := empty
      rw [no_pass]
      rfl
    rw [Session.dispatchAll, fresh, Session.clearReports, Session.restart, Session.restart, idle,
      idle, compiler, settings]
    rfl

theorem refresh_as_fresh (follows : Follows setup.options configuration session)
    {after : Session} (done : refresh setup session machine = ⟨after, last, .ok ()⟩) :
    ∃ shader, Asset.load machine.files setup.options.shader = .ok shader ∧
      ∀ other, (fresh setup.options configuration shader).dispatchAll setup.oracle
        setup.options.selectionCommands other = ⟨after.clearReports, other, .ok ()⟩ := by
  rcases refresh_cases follows machine with
    ⟨error, failed⟩ | ⟨shader, index, loaded, first, -, chosen⟩
  · rw [failed] at done
    cases done
  · rw [chosen] at done
    exact ⟨shader, loaded, choices_as_fresh follows.compiler follows.settings first done⟩

/-- A refresh with all its choices finds everything asked for, or no pass at all. -/
theorem offered_of_refresh (follows : Follows setup.options configuration session)
    {after : Session} (done : refresh setup session machine = ⟨after, last, .ok ()⟩) :
    (∃ pass, setup.options.Offered after.passes pass) ∨ after.passes = [] := by
  rcases refresh_cases follows machine with
    ⟨error, failed⟩ | ⟨shader, index, -, first, -, chosen⟩
  · rw [failed] at done
    cases done
  · rw [chosen] at done
    obtain ⟨selection, outcome, ended, -⟩ := Session.dispatchAll_selectionCommands_keeps
      setup.oracle (session.restart shader index) machine setup.options
    have passes_eq : after.passes = (session.restart shader index).passes := by
      rw [done] at ended
      exact congrArg (fun step => step.session.passes) ended
    rw [passes_eq]
    exact (Session.offered_of_dispatchAll rfl rfl first (by rw [done])).imp_right And.left

/-- A turn that reads the shader again and makes all the choices leaves the session that a new one
is set up to with the command line and the last configuration, on the files before the turn or after
it; and that set-up succeeds. -/
theorem iterate_as_fresh (reached : Reached setup configuration state)
    (batch : List WatchEvent) (changed : shaderChanged batch = true)
    (restored : ∀ error, (iterate setup batch state).2 ≠ .refreshFailed error) :
    let after := (iterate setup batch state).1
    let newest := (newConfiguration? batch).getD configuration
    ∀ other : Machine,
      other.files = state.machine.files ∨ other.files = after.machine.files →
        (Application.sessionFor newest).dispatchAll setup.oracle setup.options.setupCommands other =
          ⟨after.session.clearReports, other, .ok ()⟩ := by
  have follows := follows_configured (follows_of_reached reached) batch
  have turn := turn_iterate setup batch state
  generalize iterate setup batch state = result at turn restored
  cases turn with
  | idle quiet unchanged => simp [changed] at unchanged
  | configured delivered unchanged => simp [changed] at unchanged
  | @refused session machine error changed failed => exact absurd rfl (restored error)
  | @refreshed session machine changed done =>
      obtain ⟨shader, loaded, as_fresh⟩ := refresh_as_fresh follows done
      obtain ⟨rfl, refreshed⟩ := follows_of_refresh follows done
      have recompiled :=
        Session.recompiled_compile refreshed.consistent setup.oracle state.machine
      obtain ⟨reports, session_eq⟩ := recompiled.session_eq
      have kept : KeepsTexts state.machine.files
          (session.compile setup.oracle state.machine).machine.files :=
        fun path text => recompiled.extended.readText
      intro after newest other same_files
      -- The cycle makes files but changes none, so the shader is read the same before and after it.
      have loaded_again : Asset.load other.files setup.options.shader = .ok shader := by
        rcases same_files with before | later
        · rw [before]
          exact loaded
        · rw [later]
          simp only [after, cycle_eq]
          exact Asset.load_keeps kept loaded
      have cleared : after.session.clearReports = session.clearReports := by
        simp only [after, cycle_eq, session_eq]
        rfl
      rw [dispatchAll_setupCommands setup.oracle newest loaded_again, as_fresh, cleared]

def secondKeyword : CycleOptions := { shader := ⟨"/w/a.glsl"⟩, selections := [(0, 1)] }

def twoKeywords : Machine where
  environment := { configurationDirectory? := some "/w" }
  files := { nodes := [(["tmp"], .directory), (["w"], .directory),
    (["w", "config.toml"], .file [] none),
    (["w", "a.glsl"], .file (Utf8.encode "#pragma multi_compile A B\n".toList) none)] }

def saved (path text : String) : Edit :=
  .replace ⟨path⟩ (.file (Utf8.encode text.toList) none)

def opened : Setup × State :=
  (start .defines secondKeyword twoKeywords).2.get (by decide +kernel)

theorem start_opened : (start .defines secondKeyword twoKeywords).2 = some (opened.1, opened.2) :=
  have begins : (start .defines secondKeyword twoKeywords).2 = some opened :=
    (Option.some_get _).symm
  begins.trans (congrArg some Prod.mk.eta.symm)

theorem reached_opened : Reached opened.1 {} opened.2 :=
  reached_start (by decide) start_opened

/-- The second keyword goes from the shader. -/
def narrowing : State × List WatchEvent :=
  edited 0 (saved "/w/a.glsl" "#pragma multi_compile A\n") opened.2

def narrowed : State × Reaction :=
  iterate opened.1 narrowing.2 narrowing.1

/-- Then it comes back, with a third one. -/
def widening : State × List WatchEvent :=
  edited 1000 (saved "/w/a.glsl" "#pragma multi_compile A B C\n") narrowed.1

/-- Or the configuration is saved again, with the second keyword still missing. -/
def touching : State × List WatchEvent :=
  edited 1000 (saved "/w/config.toml" "") narrowed.1

/-- A turn fails without the second keyword, and the next one compiles with it. -/
theorem narrowed_then_widened :
    let after := iterate opened.1 widening.2 widening.1
    newConfiguration? narrowing.2 = none ∧
      narrowed.2 = .refreshFailed (.selection (.optionOutOfRange 0 1 1)) ∧
      newConfiguration? widening.2 = none ∧ shaderChanged widening.2 = true ∧
      after.2 matches .cycle _ ∧ after.1.machine.requests.map (·.keywords) = [["B"], ["B"]] := by
  decide +kernel

theorem reached_narrowed : Reached opened.1 {} narrowed.1 := by
  obtain ⟨undelivered, -⟩ := narrowed_then_widened
  have turned : Reached opened.1 ((newConfiguration? narrowing.2).getD {}) narrowed.1 :=
    .turned (reached_edited reached_opened 0 _) narrowing.2
  rw [undelivered] at turned
  exact turned

theorem reached_widening : Reached opened.1 {} widening.1 :=
  reached_edited reached_narrowed 1000 _

theorem reached_touching : Reached opened.1 {} touching.1 :=
  reached_edited reached_narrowed 1000 _

theorem iterate_as_fresh_after_failure :
    let after := (iterate opened.1 widening.2 widening.1).1
    (∃ error, narrowed.2 = .refreshFailed error) ∧
      (Application.sessionFor {}).dispatchAll opened.1.oracle opened.1.options.setupCommands
        after.machine = ⟨after.session.clearReports, after.machine, .ok ()⟩ := by
  obtain ⟨-, failed, undelivered, changed, compiled, -⟩ := narrowed_then_widened
  have restored (error : SessionError) :
      (iterate opened.1 widening.2 widening.1).2 ≠ .refreshFailed error := by
    intro refused
    rw [refused] at compiled
    cases compiled
  have as_fresh := iterate_as_fresh reached_widening widening.2 changed restored
    (iterate opened.1 widening.2 widening.1).1.machine (.inr rfl)
  rw [undelivered] at as_fresh
  exact ⟨⟨_, failed⟩, as_fresh⟩

/-- What a request would be that is made as the command line asks. -/
def AsAsked (options : CycleOptions) (passes : List Pass) (request : VariantRequest) : Prop :=
  ∀ pass, options.Offered passes pass →
    request.pass = pass ∧ request.keywords = (options.asked pass).keywords pass

/-- A cycle asks for at most one variant, and for the one asked for if the shader offers that. -/
theorem cycle_as_asked (follows : Follows setup.options configuration state.session) :
    let after := (cycle setup state).1
    after.session.passes = state.session.passes ∧
    ∃ made, after.machine.requests = state.machine.requests ++ made ∧ made.length ≤ 1 ∧
      ∀ request ∈ made, after.session.activePass? = some request.pass ∧
        AsAsked setup.options after.session.passes request := by
  have recompiled := Session.recompiled_compile follows.consistent setup.oracle state.machine
  obtain ⟨reports, session_eq⟩ := recompiled.session_eq
  simp only [cycle_eq, session_eq, true_and]
  rcases recompiled.requests with none_made | ⟨pass, first, active, one_made⟩
  · exact ⟨[], by rw [none_made, List.append_nil], by simp, by simp⟩
  · refine ⟨_, one_made, by simp, fun request member => ?_⟩
    rw [List.mem_singleton] at member
    rw [member]
    refine ⟨active, fun wanted offered => ?_⟩
    have selection := follows.asked wanted offered
    have looked : state.session.activePass? = some wanted := by
      rw [Session.activePass?, selection]
      exact offered.found
    rw [active] at looked
    cases looked
    exact ⟨rfl, by rw [Session.request, selection]⟩

/-- Every variant that a turn asks for is the one the command line asks for, if the shader as it was
last read offers that.  So it always is in a turn that has read the shader again. -/
theorem iterate_as_asked (reached : Reached setup configuration state)
    (batch : List WatchEvent) :
    let after := (iterate setup batch state).1
    ∃ made, after.machine.requests = state.machine.requests ++ made ∧ made.length ≤ 1 ∧
      ∀ request ∈ made, after.session.activePass? = some request.pass ∧
        AsAsked setup.options after.session.passes request ∧
        (shaderChanged batch = true → ∃ pass, setup.options.Offered after.session.passes pass) := by
  have follows := follows_configured (follows_of_reached reached) batch
  have turn := turn_iterate setup batch state
  generalize iterate setup batch state = result at turn
  cases turn with
  | idle quiet unchanged => exact ⟨[], (List.append_nil _).symm, by simp, by simp⟩
  | configured delivered unchanged =>
      let before : State := { state with session := configured setup batch state.session }
      obtain ⟨-, made, appended, few, as_asked⟩ := @cycle_as_asked setup _ before follows
      refine ⟨made, appended, few, fun request member => ?_⟩
      obtain ⟨active, asked⟩ := as_asked request member
      exact ⟨active, asked, by simp [unchanged]⟩
  | refused changed failed =>
      obtain ⟨rfl, -⟩ := follows_of_refresh follows failed
      exact ⟨[], (List.append_nil _).symm, by simp, by simp⟩
  | @refreshed session machine changed done =>
      obtain ⟨rfl, refreshed⟩ := follows_of_refresh follows done
      let before : State :=
        ⟨session, followFiles setup state.watcher session state.machine.files, state.machine⟩
      obtain ⟨passes_eq, made, appended, few, as_asked⟩ :=
        @cycle_as_asked setup _ before refreshed
      refine ⟨made, appended, few, fun request member => ?_⟩
      obtain ⟨active, asked⟩ := as_asked request member
      refine ⟨active, asked, fun _ => ?_⟩
      rw [passes_eq]
      refine (offered_of_refresh follows done).resolve_right fun empty => ?_
      obtain ⟨index, -, found⟩ := Option.bind_eq_some_iff.mp active
      have none_left : before.session.passes = [] := empty
      rw [passes_eq, none_left] at found
      cases found

theorem iterate_as_asked_after_failure :
    let after := (iterate opened.1 widening.2 widening.1).1
    after.machine.requests.map (·.keywords) = [["B"], ["B"]] ∧
    ∃ made, after.machine.requests = widening.1.machine.requests ++ made ∧ made.length ≤ 1 ∧
      ∀ request ∈ made, after.session.activePass? = some request.pass ∧
        AsAsked opened.1.options after.session.passes request ∧
        (shaderChanged widening.2 = true →
          ∃ pass, opened.1.options.Offered after.session.passes pass) := by
  obtain ⟨-, -, -, -, -, requests⟩ := narrowed_then_widened
  exact ⟨requests, iterate_as_asked reached_widening widening.2⟩

/-- What is asked for is missing from the shader, and still a turn compiles. -/
theorem iterate_not_as_asked :
    let after := (iterate opened.1 touching.2 touching.1).1
    Reached opened.1 {} touching.1 ∧
      (iterate opened.1 touching.2 touching.1).2 matches .cycle _ ∧
      after.machine.requests.map (·.keywords) = [["B"], ["A"]] ∧
      ∃ pass, after.session.activePass? = some pass ∧
        after.session.selection ≠ opened.1.options.asked pass := by
  have seen : (iterate opened.1 touching.2 touching.1).2 matches .cycle _ ∧
      (iterate opened.1 touching.2 touching.1).1.machine.requests.map (·.keywords) =
        [["B"], ["A"]] ∧
      (iterate opened.1 touching.2 touching.1).1.session.activePass?.any (fun pass =>
        (iterate opened.1 touching.2 touching.1).1.session.selection ≠
          opened.1.options.asked pass) := by decide +kernel
  obtain ⟨compiled, requests, unasked⟩ := seen
  obtain ⟨pass, active, other⟩ := (Option.any_eq_true _ _).mp unasked
  exact ⟨reached_touching, compiled, requests, pass, active, of_decide_eq_true other⟩

end ShaderVariants.WatchMode
