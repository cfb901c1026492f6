import ShaderVariants.Proofs.Session.Repetition
import ShaderVariants.Proofs.WatchMode.Restoration

/-!
Messages in batches.

When messages come together in one turn is a matter of time.  `settle` is what they make of a
session all at once, whether or not something fails on the way, and it can be done in parts
(`settle_append`): the last configuration counts, and reading the same shader again with the same
choices changes nothing (`reread_reread`).
-/
namespace ShaderVariants.WatchMode

variable {setup : Setup} {configuration : Configuration} {state : State} {session : Session}
  {machine : Machine} {reading : Except AssetError Asset}

/-- The session after the shader was read again with a given outcome and the choices were made. -/
def reread (setup : Setup) (reading : Except AssetError Asset) (session : Session) : Session :=
  match reading with
  | .error _ => session
  | .ok shader =>
      (session.restart shader (session.refreshedIndex shader)).choose setup.options

theorem reread_outfit (setup : Setup) (reading : Except AssetError Asset) (session : Session)
    (compiler : CompilerTarget) (settings : VariantSettings) (reports : Reports) :
    reread setup reading { session with compiler, settings, reports } =
      { reread setup reading session with compiler, settings, reports } := by
  cases reading with
  | error error => rfl
  | ok shader =>
      exact Session.choose_outfit setup.options
        (session.restart shader (session.refreshedIndex shader)) compiler settings reports

theorem reread_keeps (setup : Setup) (reading : Except AssetError Asset) (session : Session) :
    let after := reread setup reading session
    after.compiler = session.compiler ∧ after.settings = session.settings ∧
      after.reports = session.reports := by
  intro after
  have same : after = { after with
      compiler := session.compiler, settings := session.settings, reports := session.reports } :=
    reread_outfit setup reading session session.compiler session.settings session.reports
  rw [same]
  exact ⟨rfl, rfl, rfl⟩

theorem reread_reread (setup : Setup) (reading : Except AssetError Asset) (session : Session) :
    reread setup reading (reread setup reading session) = reread setup reading session := by
  cases reading with
  | error error => rfl
  | ok shader =>
      obtain ⟨selection, outcome, ended, -⟩ := Session.dispatchAll_selectionCommands_keeps .defines
        (session.restart shader (session.refreshedIndex shader)) {} setup.options
      have again := Session.choose_restart_again setup.options session shader
      dsimp only at again
      have restarted (index : Nat) : (reread setup (.ok shader) session).restart shader index =
          session.restart shader index := by
        simp only [reread, Session.choose, ended]
        rfl
      show ((reread setup (.ok shader) session).restart shader _).choose setup.options = _
      rw [restarted]
      exact again

theorem session_refresh (follows : Follows setup.options configuration session)
    (loaded : Asset.load machine.files setup.options.shader = reading) :
    (refresh setup session machine).session = reread setup reading session := by
  obtain ⟨shader, selected, origin⟩ := follows.shader
  have read : shader.reload machine.files = reading := by
    rw [Asset.reload, origin]
    exact loaded
  cases reading with
  | error error =>
      simp only [refresh, Session.dispatchAll, Session.dispatch, Session.refresh, selected, read,
        reread]
  | ok reloaded =>
      simp only [refresh, Session.dispatchAll, Session.dispatch,
        Session.refresh_of_reload selected read, reread]
      exact Session.session_dispatchAll setup.options _ setup.oracle machine

/-- The session after all the messages of a batch, if the shader is read with the given outcome. -/
def settle (setup : Setup) (reading : Except AssetError Asset) (batch : List WatchEvent)
    (session : Session) : Session :=
  let session := configured setup batch session
  if shaderChanged batch then reread setup reading session else session

theorem configured_configured (setup : Setup) (first second : List WatchEvent)
    (session : Session) :
    configured setup second (configured setup first session) =
      configured setup (first ++ second) session := by
  unfold configured
  rw [newConfiguration?_append]
  cases newConfiguration? second with
  | none => rfl
  | some newest =>
      cases newConfiguration? first with
      | none => rfl
      | some older =>
          simp only [Option.some_or, applyConfiguration]
          split <;> rfl

/-- A configuration and reading the shader again do not get in each other's way. -/
theorem configured_reread (setup : Setup) (reading : Except AssetError Asset)
    (batch : List WatchEvent) (session : Session) :
    configured setup batch (reread setup reading session) =
      reread setup reading (configured setup batch session) := by
  unfold configured
  cases newConfiguration? batch with
  | none => rfl
  | some configuration =>
      obtain ⟨compiler, -, reports⟩ := reread_keeps setup reading session
      simp only [applyConfiguration, Session.setSettings, Session.setCompiler]
      split
      · rw [reread_outfit setup reading session configuration.compilerTarget configuration.variant
          session.reports, reports]
      · rw [reread_outfit setup reading session session.compiler configuration.variant
          session.reports, reports, compiler]

theorem settle_append (setup : Setup) (reading : Except AssetError Asset)
    (first second : List WatchEvent) (session : Session) :
    settle setup reading (first ++ second) session =
      settle setup reading second (settle setup reading first session) := by
  unfold settle
  rw [← configured_configured, shaderChanged_append]
  cases shaderChanged first with
  | false => rfl
  | true =>
      -- With the second configuration moved in front, the two readings stand next to each other.
      simp only [Bool.true_or, if_true, configured_reread]
      split
      · rw [reread_reread]
      · rfl

theorem reread_clearReports (setup : Setup) (reading : Except AssetError Asset)
    (session : Session) :
    reread setup reading session.clearReports =
      (reread setup reading session).clearReports := by
  obtain ⟨compiler, settings, -⟩ := reread_keeps setup reading session
  have cleared : reread setup reading session.clearReports = { reread setup reading session with
      compiler := session.compiler, settings := session.settings, reports := .empty } :=
    reread_outfit setup reading session session.compiler session.settings .empty
  rw [cleared, ← compiler, ← settings]
  rfl

theorem configured_clearReports (setup : Setup) (batch : List WatchEvent) (session : Session) :
    configured setup batch session.clearReports =
      (configured setup batch session).clearReports := by
  unfold configured
  cases newConfiguration? batch with
  | none => rfl
  | some configuration =>
      simp only [applyConfiguration]
      split <;> rfl

theorem settle_clearReports (setup : Setup) (reading : Except AssetError Asset)
    (batch : List WatchEvent) (session : Session) :
    settle setup reading batch session.clearReports =
      (settle setup reading batch session).clearReports := by
  unfold settle
  rw [configured_clearReports]
  split
  · exact reread_clearReports setup reading _
  · rfl

/-- A turn leaves what its messages make of the session, but for the reports of its cycle. -/
theorem session_iterate (follows : Follows setup.options configuration state.session)
    (loaded : Asset.load state.machine.files setup.options.shader = reading)
    (batch : List WatchEvent) :
    (iterate setup batch state).1.session.clearReports =
      (settle setup reading batch state.session).clearReports := by
  have follows_delivered := follows_configured follows batch
  have refreshed_eq := session_refresh follows_delivered loaded
  have after_cycle {before : State} (consistent : before.session.Consistent) :
      (cycle setup before).1.session.clearReports = before.session.clearReports := by
    obtain ⟨reports, session_eq⟩ :=
      (Session.recompiled_compile consistent setup.oracle before.machine).session_eq
    simp only [cycle_eq, session_eq]
    rfl
  have turn := turn_iterate setup batch state
  generalize iterate setup batch state = result at turn
  cases turn with
  | idle quiet unchanged =>
      simp only [settle, configured, quiet, unchanged, Bool.false_eq_true, if_false]
  | configured delivered unchanged =>
      rw [settle, if_neg (by simp [unchanged])]
      exact after_cycle follows_delivered.consistent
  | @refused session machine error changed failed =>
      rw [failed] at refreshed_eq
      rw [settle, if_pos changed, ← refreshed_eq]
  | @refreshed session machine changed done =>
      have refreshed := (follows_of_refresh follows_delivered done).2
      rw [done] at refreshed_eq
      rw [settle, if_pos changed, ← refreshed_eq]
      exact after_cycle refreshed.consistent

theorem shader?_reread {shader : Asset} (setup : Setup) (session : Session) :
    (reread setup (.ok shader) session).shader? = some shader := by
  obtain ⟨selection, outcome, ended, -⟩ := Session.dispatchAll_selectionCommands_keeps .defines
    (session.restart shader (session.refreshedIndex shader)) {} setup.options
  rw [reread, Session.choose, ended]
  rfl

theorem shader?_configured (setup : Setup) (batch : List WatchEvent) (session : Session) :
    (configured setup batch session).shader? = session.shader? := by
  unfold configured
  cases newConfiguration? batch with
  | none => rfl
  | some configuration =>
      simp only [applyConfiguration]
      split <;> rfl

theorem shader?_iterate (follows : Follows setup.options configuration state.session)
    (batch : List WatchEvent) {shader : Asset}
    (loaded : Asset.load state.machine.files setup.options.shader = .ok shader) :
    (iterate setup batch state).1.session.shader? =
      if shaderChanged batch then some shader else state.session.shader? := by
  have settled : (iterate setup batch state).1.session.clearReports.shader? =
      (settle setup (.ok shader) batch state.session).clearReports.shader? := by
    rw [session_iterate follows loaded batch]
  have kept : (iterate setup batch state).1.session.shader? =
      (settle setup (.ok shader) batch state.session).shader? := settled
  rw [kept, settle]
  split
  · rw [shader?_reread]
  · exact shader?_configured setup batch state.session

/-- Turns on one batch after another.  Between them other watchers and other machines may come,
as long as reading the shader has the same outcome in each. -/
inductive Turns (setup : Setup) (reading : Except AssetError Asset) :
    List (List WatchEvent) → Session → Session → Prop where
  | done (session : Session) : Turns setup reading [] session session
  | turn {batch : List WatchEvent} {rest : List (List WatchEvent)} {state : State}
      {last : Session} (loaded : Asset.load state.machine.files setup.options.shader = reading)
      (later : Turns setup reading rest (iterate setup batch state).1.session last) :
      Turns setup reading (batch :: rest) state.session last

theorem settle_of_turns {batches : List (List WatchEvent)} {last : Session}
    (turns : Turns setup reading batches session last)
    (follows : Follows setup.options configuration session) :
    last.clearReports = (settle setup reading batches.flatten session).clearReports := by
  induction turns generalizing configuration with
  | done session => rfl
  | @turn batch rest state last loaded later ih =>
      have one := session_iterate follows loaded batch
      rw [ih (follows_iterate follows batch), List.flatten_cons, settle_append,
        ← settle_clearReports, one, settle_clearReports]

/-- However the messages are cut into batches, the turns end in the same session but for the
reports, also where reading the shader or a choice fails. -/
theorem turns_eq_of_flatten_eq (reached : Reached setup configuration state)
    {batches others : List (List WatchEvent)} (same : batches.flatten = others.flatten)
    {after last : Session} (turns : Turns setup reading batches state.session after)
    (other_turns : Turns setup reading others state.session last) :
    after.clearReports = last.clearReports := by
  have follows := follows_of_reached reached
  rw [settle_of_turns turns follows, settle_of_turns other_turns follows, same]

/-- The loop with nothing else going on. -/
def turnAll (setup : Setup) (batches : List (List WatchEvent)) (state : State) : State :=
  batches.foldl (fun state batch => (iterate setup batch state).1) state

theorem turns_turnAll {shader : Asset}
    (follows : Follows setup.options configuration state.session)
    (loaded : Asset.load state.machine.files setup.options.shader = .ok shader)
    (batches : List (List WatchEvent)) :
    Turns setup (.ok shader) batches state.session (turnAll setup batches state).session := by
  induction batches generalizing configuration state with
  | nil => exact .done state.session
  | cons batch rest ih =>
      have kept : KeepsTexts state.machine.files (iterate setup batch state).1.machine.files :=
        fun path text => (extends_iterate follows batch).readText
      apply Turns.turn loaded
      exact ih (follows_iterate follows batch) (Asset.load_keeps kept loaded)

def shaderThenConfiguration : List WatchEvent :=
  [.shaderChanged ⟨"/w/a.glsl"⟩, .configurationChanged { compiler := { target := .malisc } },
    .shaderChanged ⟨"/w/a.glsl"⟩]

/-- The second keyword is missing, so that the choices fail in the first and the last turn. -/
theorem turnAll_eq_after_failure :
    let apart := shaderThenConfiguration.map fun event => [event]
    let once := turnAll opened.1 [shaderThenConfiguration] narrowing.1
    (∃ error, (iterate opened.1 [.shaderChanged ⟨"/w/a.glsl"⟩] narrowing.1).2 =
      .refreshFailed error) ∧
    (turnAll opened.1 apart narrowing.1).machine.requests ≠ once.machine.requests ∧
    (turnAll opened.1 apart narrowing.1).session.clearReports = once.session.clearReports := by
  intro apart once
  have seen : (Asset.load narrowing.1.machine.files opened.1.options.shader).isOk ∧
      (iterate opened.1 [.shaderChanged ⟨"/w/a.glsl"⟩] narrowing.1).2 =
        .refreshFailed (.selection (.optionOutOfRange 0 1 1)) ∧
      (turnAll opened.1 apart narrowing.1).machine.requests ≠ once.machine.requests := by
    decide +kernel
  obtain ⟨readable, failed, differing⟩ := seen
  have reached : Reached opened.1 {} narrowing.1 := reached_edited reached_opened 0 _
  have follows := follows_of_reached reached
  obtain ⟨shader, loaded⟩ : ∃ shader,
      Asset.load narrowing.1.machine.files opened.1.options.shader = .ok shader := by
    cases read : Asset.load narrowing.1.machine.files opened.1.options.shader with
    | ok shader => exact ⟨shader, rfl⟩
    | error error =>
        rw [read] at readable
        cases readable
  have same : apart.flatten = [shaderThenConfiguration].flatten := rfl
  refine ⟨⟨_, failed⟩, differing, ?_⟩
  exact turns_eq_of_flatten_eq reached same (turns_turnAll follows loaded apart)
    (turns_turnAll follows loaded [shaderThenConfiguration])

end ShaderVariants.WatchMode
