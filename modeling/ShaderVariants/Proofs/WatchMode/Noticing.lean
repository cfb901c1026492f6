import ShaderVariants.Proofs.Watcher
import ShaderVariants.Proofs.WatchMode.Batches

/-!
Which edits are noticed.

Edits, notifications and turns come in any order.  The configuration is read when a notification is
handled and the shader when a turn is made, and still the session goes with the last edit if a
notification that counts comes after it (`session_of_noticed`).  One that comes too soon after the
one before does not count, and if no other follows the last edit is lost.
-/
namespace ShaderVariants.WatchMode

/-- The loop between two turns, and the messages that wait for it. -/
structure Moment where
  state : State
  waiting : List WatchEvent := []

/-- Another program edits files, the system notifies of a change, or a turn takes the first few of
the messages that wait.

A turn is one happening: nothing falls between its taking the messages, reading the shader and
starting a new watcher.  So an edit that comes after the shader was read and before the new watcher
starts is not expressed; its message would stay behind with the old watcher. -/
inductive Happening where
  | edited (change : Edit)
  | notified (now : Nat) (notification : Notification)
  | turned (count : Nat)

namespace Moment

variable {setup : Setup} {configuration newest : Configuration} {moment : Moment}
  {happening : Happening} {happenings : List Happening} {path : Path}

def files (moment : Moment) : FileSystem :=
  moment.state.machine.files

/-- Whether a turn starts a new watcher. -/
def replaces (setup : Setup) (moment : Moment) (count : Nat) : Bool :=
  (iterate setup (moment.waiting.take count) moment.state).1.watcher ≠ moment.state.watcher

/-- An edit that the system refuses changes nothing.  A new watcher starts with no messages; those
that wait for the old one stay behind. -/
def step (setup : Setup) (moment : Moment) : Happening → Moment
  | .edited change =>
      let files := (moment.files.apply change).toOption.getD moment.files
      { moment with state.machine.files := files }
  | .notified now notification =>
      let (watcher, events) := moment.state.watcher.receive now moment.files notification
      { state := { moment.state with watcher }, waiting := moment.waiting ++ events }
  | .turned count =>
      { state := (iterate setup (moment.waiting.take count) moment.state).1
        waiting := if moment.replaces setup count then [] else moment.waiting.drop count }

def run (setup : Setup) (moment : Moment) (happenings : List Happening) : Moment :=
  happenings.foldl (step setup) moment

/-- The messages that no turn will take any more. -/
def lost (setup : Setup) (moment : Moment) : Happening → List WatchEvent
  | .turned count => if moment.replaces setup count then moment.waiting.drop count else []
  | _ => []

/-- Whether something is heard in the course of what happens. -/
def heard (setup : Setup) (hears : Moment → Happening → Bool) (moment : Moment) :
    List Happening → Bool
  | [] => false
  | happening :: rest =>
      hears moment happening || heard setup hears (moment.step setup happening) rest

/-- Whether something is heard after every disturbance. -/
def noticed (setup : Setup) (disturbs hears : Moment → Happening → Bool) (moment : Moment) :
    List Happening → Bool
  | [] => true
  | happening :: rest =>
      (!disturbs moment happening || heard setup hears (moment.step setup happening) rest) &&
        noticed setup disturbs hears (moment.step setup happening) rest

/-- Whether reading the shader will come to something else. -/
def disturbsShader (setup : Setup) (moment : Moment) (happening : Happening) : Bool :=
  Asset.load (moment.step setup happening).files setup.options.shader ≠
    Asset.load moment.files setup.options.shader

/-- Whether a file of the shader is named in a notification that comes in time. -/
def hearsShader (moment : Moment) : Happening → Bool
  | .notified now notification =>
      notification.kind.isRelevant && notification.paths.any fun path =>
        moment.state.watcher.isShader path && !moment.state.watcher.isConfiguration path &&
          !moment.state.watcher.isTooSoon now path
  | _ => false

/-- Where the configuration file is, and what it says. -/
def configurationAt (files : FileSystem) (path : Path) :
    Path × Except ConfigurationError Configuration :=
  (files.canonical path, Configuration.loadFrom files (files.canonical path))

/-- Whether the configuration file becomes another one, or a configuration is lost on the way. -/
def disturbsConfiguration (setup : Setup) (path : Path) (moment : Moment)
    (happening : Happening) : Bool :=
  configurationAt (moment.step setup happening).files path ≠ configurationAt moment.files path ||
    (newConfiguration? (moment.lost setup happening)).isSome

/-- Whether the configuration file is named, spelled in no other way, in a notification that comes
in time. -/
def hearsConfiguration (path : Path) (moment : Moment) : Happening → Bool
  | .notified now notification =>
      let file := moment.files.canonical path
      notification.kind.isRelevant && notification.paths.contains file &&
        notification.paths.all (fun other => !other.agrees file || other = file) &&
        moment.state.watcher.isConfiguration file && !moment.state.watcher.isTooSoon now file
  | _ => false

/-- The session goes with the command line and with some configuration. -/
def Sound (setup : Setup) (moment : Moment) : Prop :=
  ∃ configuration, Follows setup.options configuration moment.state.session

@[simp]
theorem watcher_notified (setup : Setup) (moment : Moment) (now : Nat)
    (notification : Notification) :
    (moment.step setup (.notified now notification)).state.watcher =
      (moment.state.watcher.receive now moment.files notification).1 := rfl

@[simp]
theorem waiting_notified (setup : Setup) (moment : Moment) (now : Nat)
    (notification : Notification) :
    (moment.step setup (.notified now notification)).waiting =
      moment.waiting ++ (moment.state.watcher.receive now moment.files notification).2 := rfl

@[simp]
theorem state_turned (setup : Setup) (moment : Moment) (count : Nat) :
    (moment.step setup (.turned count)).state =
      (iterate setup (moment.waiting.take count) moment.state).1 := rfl

@[simp]
theorem waiting_turned (setup : Setup) (moment : Moment) (count : Nat) :
    (moment.step setup (.turned count)).waiting =
      if moment.replaces setup count then [] else moment.waiting.drop count := rfl

theorem sound_step (sound : moment.Sound setup) (happening : Happening) :
    (moment.step setup happening).Sound setup := by
  obtain ⟨configuration, follows⟩ := sound
  cases happening with
  | edited change => exact ⟨configuration, follows⟩
  | notified now notification => exact ⟨configuration, follows⟩
  | turned count => exact ⟨_, follows_iterate follows _⟩

theorem sound_run (sound : moment.Sound setup) (happenings : List Happening) :
    (moment.run setup happenings).Sound setup := by
  induction happenings generalizing moment with
  | nil => exact sound
  | cons happening rest ih => exact ih (sound_step sound happening)

/-- What is up to date stays so until it is disturbed, and is so again once something is heard. -/
theorem upToDate_of_noticed {disturbs hears : Moment → Happening → Bool}
    {upToDate : Moment → Prop}
    (steady : ∀ moment happening, moment.Sound setup → upToDate moment →
      disturbs moment happening = false → upToDate (moment.step setup happening))
    (informed : ∀ moment happening, moment.Sound setup → hears moment happening = true →
      upToDate (moment.step setup happening))
    (sound : moment.Sound setup)
    (current : upToDate moment ∨ moment.heard setup hears happenings = true)
    (noticed : moment.noticed setup disturbs hears happenings = true) :
    upToDate (moment.run setup happenings) := by
  induction happenings generalizing moment with
  | nil => exact current.resolve_right (by simp [heard])
  | cons happening rest ih =>
      rw [Moment.noticed, Bool.and_eq_true] at noticed
      apply ih (sound_step sound happening) ?_ noticed.2
      rcases current with current | awaited
      · cases disturbed : disturbs moment happening with
        | false => exact .inl (steady moment happening sound current disturbed)
        | true => exact .inr (by simpa [disturbed] using noticed.1)
      · rw [heard, Bool.or_eq_true] at awaited
        rcases awaited with now | later
        · exact .inl (informed moment happening sound now)
        · exact .inr later

/-- The shader at hand is the one in the files, or a message about it waits. -/
def HasShader (setup : Setup) (moment : Moment) : Prop :=
  shaderChanged moment.waiting = true ∨
    ∀ shader, Asset.load moment.files setup.options.shader = .ok shader →
      moment.state.session.shader? = some shader

theorem hasShader_step (sound : moment.Sound setup) (current : moment.HasShader setup)
    (undisturbed : disturbsShader setup moment happening = false) :
    (moment.step setup happening).HasShader setup := by
  have same := of_decide_eq_false undisturbed
  rw [ne_eq, Decidable.not_not] at same
  cases happening with
  | edited change =>
      apply current.imp_right
      intro shown shader loaded
      exact shown shader (same.symm.trans loaded)
  | notified now notification =>
      apply current.imp_left
      intro awaited
      rw [waiting_notified, shaderChanged_append, awaited, Bool.true_or]
  | turned count =>
      obtain ⟨configuration, follows⟩ := sound
      cases taken : shaderChanged (moment.waiting.take count) with
      | true =>
          apply Or.inr
          intro shader loaded
          have shown := shader?_iterate follows (moment.waiting.take count)
            (same.symm.trans loaded)
          rw [if_pos taken] at shown
          exact shown
      | false =>
          -- Only a turn that takes a message about the shader starts a new watcher.
          have kept : moment.replaces setup count = false := by
            have watching := (watcher_iterate follows (moment.waiting.take count)).resolve_right
              (by simp [taken])
            simp [replaces, watching]
          apply current.imp
          · intro awaited
            rw [← List.take_append_drop count moment.waiting, shaderChanged_append, taken,
              Bool.false_or] at awaited
            rw [waiting_turned, kept]
            exact awaited
          · intro shown shader loaded
            have loaded_before := same.symm.trans loaded
            have untouched := shader?_iterate follows (moment.waiting.take count) loaded_before
            rw [if_neg (by simp [taken])] at untouched
            exact untouched.trans (shown shader loaded_before)

theorem hasShader_of_hears (heard : hearsShader moment happening = true) :
    (moment.step setup happening).HasShader setup := by
  cases happening with
  | edited change => cases heard
  | turned count => cases heard
  | notified now notification =>
      simp only [hearsShader, Bool.and_eq_true, List.any_eq_true, Bool.not_eq_true'] at heard
      obtain ⟨relevant, path, named, ⟨shader, other⟩, due⟩ := heard
      have watched : moment.state.watcher.isWatched path = true := by
        rw [Watcher.isWatched, shader, Bool.or_true]
      obtain ⟨spelled, -, agreeing, sent⟩ :=
        Watcher.message_mem_receive moment.files relevant named watched due
      have about : moment.state.watcher.message moment.files spelled = .shaderChanged spelled := by
        rw [Watcher.message, Watcher.isConfiguration_of_agrees agreeing, other]
        rfl
      rw [about] at sent
      apply Or.inl
      rw [waiting_notified, shaderChanged_append, Bool.or_eq_true]
      exact .inr (List.any_eq_true.mpr ⟨_, sent, rfl⟩)

/-- The session goes with the configuration in the file, or the last message about it says that
one. -/
def HasConfiguration (setup : Setup) (path : Path) (moment : Moment) : Prop :=
  moment.state.watcher.isConfiguration (moment.files.canonical path) = true ∧
    ∀ written, Configuration.loadFrom moment.files (moment.files.canonical path) = .ok written →
      ∃ configuration, Follows setup.options configuration moment.state.session ∧
        (newConfiguration? moment.waiting).getD configuration = written

theorem hasConfiguration_step (configured : setup.configurationFile? = some path)
    (sound : moment.Sound setup) (current : moment.HasConfiguration setup path)
    (undisturbed : disturbsConfiguration setup path moment happening = false) :
    (moment.step setup happening).HasConfiguration setup path := by
  rw [disturbsConfiguration, Bool.or_eq_false_iff] at undisturbed
  obtain ⟨same, unlost⟩ := undisturbed
  have same := of_decide_eq_false same
  rw [ne_eq, Decidable.not_not, configurationAt, configurationAt, Prod.mk.injEq] at same
  obtain ⟨in_place, unread⟩ := same
  obtain ⟨placed, current⟩ := current
  cases happening with
  | edited change =>
      refine ⟨?_, fun written read => current written (unread.symm.trans read)⟩
      rw [in_place]
      exact placed
  | notified now notification =>
      refine ⟨?_, fun written read => ?_⟩
      · obtain ⟨counted, kept⟩ := Watcher.receive_keeps moment.state.watcher now moment.files
          notification
        rw [watcher_notified, kept]
        exact placed
      · obtain ⟨configuration, follows, shown⟩ := current written read
        refine ⟨configuration, follows, ?_⟩
        rw [waiting_notified, newConfiguration?_append_getD, shown]
        cases delivered : newConfiguration?
            (moment.state.watcher.receive now moment.files notification).2 with
        | none => rfl
        | some newest =>
            exact Watcher.configuration_of_mem_receive placed read (mem_of_newConfiguration? delivered)
  | turned count =>
      obtain ⟨configuration, follows⟩ := sound
      refine ⟨?_, fun written read => ?_⟩
      · rw [in_place, state_turned]
        rcases watcher_iterate follows (moment.waiting.take count) with kept | ⟨-, session, renewed⟩
        · rw [kept]
          exact placed
        · rw [renewed, Watcher.isConfiguration_iff]
          refine ⟨moment.files.canonical path, ?_, Path.agrees_iff.mpr rfl⟩
          rw [watcherFor, Watcher.new, configured]
          rfl
      · obtain ⟨earlier, follows, shown⟩ := current written (unread.symm.trans read)
        refine ⟨_, follows_iterate follows (moment.waiting.take count), ?_⟩
        rw [← List.take_append_drop count moment.waiting, newConfiguration?_append_getD] at shown
        rw [waiting_turned]
        cases replaced : moment.replaces setup count with
        | false => exact shown
        | true =>
            -- No configuration waits for the watcher that goes.
            have nothing : newConfiguration? (moment.waiting.drop count) = none := by
              rw [lost, if_pos replaced] at unlost
              exact Option.not_isSome_iff_eq_none.mp (by simp [unlost])
            rw [nothing] at shown
            exact shown

theorem hasConfiguration_of_hears (sound : moment.Sound setup)
    (heard : hearsConfiguration path moment happening = true) :
    (moment.step setup happening).HasConfiguration setup path := by
  cases happening with
  | edited change => cases heard
  | turned count => cases heard
  | notified now notification =>
      simp only [hearsConfiguration, Bool.and_eq_true, List.contains_iff_mem, List.all_eq_true,
        Bool.or_eq_true, Bool.not_eq_true', decide_eq_true_eq] at heard
      obtain ⟨⟨⟨⟨relevant, named⟩, spelled⟩, placed⟩, due⟩ := heard
      obtain ⟨configuration, follows⟩ := sound
      obtain ⟨counted, kept⟩ := Watcher.receive_keeps moment.state.watcher now moment.files
        notification
      refine ⟨?_, fun written read => ⟨configuration, follows, ?_⟩⟩
      · rw [watcher_notified, kept]
        exact placed
      · have watched : moment.state.watcher.isWatched (moment.files.canonical path) = true := by
          rw [Watcher.isWatched, placed, Bool.true_or]
        obtain ⟨other, among, agreeing, sent⟩ :=
          Watcher.message_mem_receive moment.files relevant named watched due
        -- Through another spelling the file may not be found, and then no configuration is sent.
        have exact : other = moment.files.canonical path := by
          rcases spelled other among with differing | exact
          · rw [differing] at agreeing
            cases agreeing
          · exact exact
        subst exact
        have read_again : Configuration.loadFrom moment.files (moment.files.canonical path) =
            .ok written := read
        rw [Watcher.message, if_pos placed, read_again] at sent
        have newest := newConfiguration?_of_mem sent fun other member =>
          Watcher.configuration_of_mem_receive placed read_again member
        rw [waiting_notified, newConfiguration?_append_getD, newest]
        rfl

end Moment

/-- Watching begins with the shader and the configuration that are in the files. -/
theorem current_of_start {setup : Setup} {state : State} {machine : Machine} {oracle : Oracle}
    {options : CycleOptions} (began : (start oracle options machine).2 = some (setup, state))
    (working : ∀ name ∈ state.machine.files.workingDirectory, FileSystem.IsName name) :
    let first : Moment := { state }
    setup.options = options ∧ first.Sound setup ∧ first.HasShader setup ∧
      ∃ path, setup.configurationFile? = some path ∧ first.HasConfiguration setup path := by
  intro first
  cases read : Configuration.load machine with
  | error error => simp [start, read] at began
  | ok pair =>
      obtain ⟨configuration, loaded⟩ := pair
      obtain ⟨rfl, rfl, -⟩ := start_ok read began
      have follows := follows_start read began
      obtain ⟨extended, shader, found, shown⟩ := extends_start read began
      have kept : KeepsTexts loaded.files state.machine.files :=
        fun path text => extended.readText
      obtain ⟨path, named, stored⟩ := Configuration.loadFrom_of_load read
      obtain ⟨placed, watching⟩ := start_watches read began
      rw [named] at placed
      refine ⟨rfl, ⟨configuration, follows⟩, .inr ?_, path, placed, ?_, ?_⟩
      · intro last loaded_last
        have same := (Asset.load_keeps kept found).symm.trans loaded_last
        cases same
        exact shown
      · show state.watcher.isConfiguration (state.machine.files.canonical path) = true
        rw [watching, Watcher.isConfiguration_iff]
        refine ⟨state.machine.files.canonical path, ?_, Path.agrees_iff.mpr rfl⟩
        rw [watcherFor, Watcher.new, placed]
        rfl
      · intro written there
        refine ⟨configuration, follows, ?_⟩
        have stored_last := Configuration.loadFrom_extends extended stored
        have read_last := Configuration.loadFrom_canonical working there
        exact Except.ok.inj (stored_last.symm.trans read_last)

/-- Whatever happens and in whatever order: once no message waits, the session has the shader that
is in the files, with everything asked for that it offers, if each change of it was heard of later,
and goes with the configuration file, if each change of that was heard of later. -/
theorem session_of_noticed {setup : Setup} {state : State} {machine : Machine} {oracle : Oracle}
    {options : CycleOptions} (began : (start oracle options machine).2 = some (setup, state))
    (working : ∀ name ∈ state.machine.files.workingDirectory, FileSystem.IsName name)
    (happenings : List Happening) :
    let first : Moment := { state }
    let last := first.run setup happenings
    last.waiting = [] →
    (first.noticed setup (Moment.disturbsShader setup) Moment.hearsShader happenings = true →
      ∀ shader, Asset.load last.files options.shader = .ok shader →
        last.state.session.shader? = some shader ∧
        (last.state.session.passes, last.state.session.vocabulary) =
          Session.indexed (some shader) ∧
        ∀ pass, options.Offered last.state.session.passes pass →
          last.state.session.selection = options.asked pass) ∧
    ∃ path, setup.configurationFile? = some path ∧
      (first.noticed setup (Moment.disturbsConfiguration setup path)
          (Moment.hearsConfiguration path) happenings = true →
        ∀ written,
          Configuration.loadFrom last.files (last.files.canonical path) = .ok written →
            last.state.session.settings = written.variant ∧
            last.state.session.compiler = options.compiler?.getD written.compilerTarget) := by
  intro first last taken
  obtain ⟨rfl, sound, shader_current, path, placed, configuration_current⟩ :=
    current_of_start began working
  refine ⟨fun noticed shader loaded => ?_, path, placed, fun noticed written read => ?_⟩
  · have current : last.HasShader setup :=
      Moment.upToDate_of_noticed
        (fun moment happening sound current => Moment.hasShader_step sound current)
        (fun moment happening sound => Moment.hasShader_of_hears)
        sound (.inl shader_current) noticed
    have shown : last.state.session.shader? = some shader := by
      apply current.resolve_left ?_ shader loaded
      rw [taken]
      exact Bool.false_ne_true
    obtain ⟨configuration, follows⟩ := Moment.sound_run sound happenings
    have indexed_eq := follows.consistent.indexed_eq
    rw [shown] at indexed_eq
    exact ⟨shown, indexed_eq, follows.asked⟩
  · have current : last.HasConfiguration setup path :=
      Moment.upToDate_of_noticed
        (fun moment happening sound current => Moment.hasConfiguration_step placed sound current)
        (fun moment happening sound => Moment.hasConfiguration_of_hears sound)
        sound (.inl configuration_current) noticed
    obtain ⟨configuration, follows, same⟩ := current.2 written read
    rw [taken] at same
    cases same
    exact ⟨follows.settings, follows.compiler⟩

def configurationFile : Path := ⟨"/w/config.toml"⟩

def saysLegacy : Edit := saved "/w/config.toml" "[variant]\nplatform = \"gles20\"\n"

def saysFragment : Edit := saved "/w/config.toml" "[variant]\nextension = \"frag\"\n"

/-- Saves of both files, in turns with notifications, one of which comes too soon. -/
def interleaved : List Happening :=
  [.edited saysLegacy, .notified 0 ⟨.modified, [configurationFile]⟩,
    .edited (saved "/w/a.glsl" "#pragma multi_compile A B C\n"), .edited saysFragment,
    .turned 1,
    .notified 100 ⟨.modified, [configurationFile]⟩, .notified 150 ⟨.modified, [⟨"/w/a.glsl"⟩]⟩,
    .turned 1,
    .notified 300 ⟨.modified, [configurationFile]⟩,
    .turned 2]

def interleavedEnd : Moment :=
  Moment.run opened.1 { state := opened.2 } interleaved

theorem session_of_noticed_interleaved :
    let last := Moment.run opened.1 { state := opened.2 } interleaved
    last.state.session.settings = { extension := "frag" } ∧
      last.state.session.vocabulary.words = ["A", "B", "C"] ∧
      ∃ shader, Asset.load last.files secondKeyword.shader = .ok shader ∧
        last.state.session.shader? = some shader ∧
        (last.state.session.passes, last.state.session.vocabulary) =
          Session.indexed (some shader) := by
  have seen : opened.2.machine.files.workingDirectory = [] ∧ interleavedEnd.waiting = [] ∧
      opened.1.configurationFile? = some configurationFile ∧
      Configuration.loadFrom interleavedEnd.files
          (interleavedEnd.files.canonical configurationFile) =
        .ok { variant := { extension := "frag" } } ∧
      (Asset.load interleavedEnd.files secondKeyword.shader).isOk ∧
      interleavedEnd.state.session.vocabulary.words = ["A", "B", "C"] ∧
      Moment.noticed opened.1 (Moment.disturbsShader opened.1) Moment.hearsShader
        { state := opened.2 } interleaved ∧
      Moment.noticed opened.1 (Moment.disturbsConfiguration opened.1 configurationFile)
        (Moment.hearsConfiguration configurationFile) { state := opened.2 } interleaved := by
    decide +kernel
  obtain ⟨top, taken, place, written, readable, words, shader_noticed, configuration_noticed⟩ :=
    seen
  have working : ∀ name ∈ opened.2.machine.files.workingDirectory, FileSystem.IsName name := by
    simp [top]
  obtain ⟨shader_shown, path, placed, configuration_shown⟩ :=
    session_of_noticed start_opened working interleaved taken
  rw [place] at placed
  cases placed
  obtain ⟨settings, -⟩ := configuration_shown configuration_noticed _ written
  cases read : Asset.load interleavedEnd.files secondKeyword.shader with
  | error error =>
      rw [read] at readable
      cases readable
  | ok shader =>
      obtain ⟨shown, indexed_eq, -⟩ := shader_shown shader_noticed shader read
      exact ⟨settings, words, shader, read, shown, indexed_eq⟩

/-- The second save is notified while the first one still counts, and is never seen. -/
theorem second_save_unnoticed :
    let happenings : List Happening :=
      [.edited saysLegacy, .notified 0 ⟨.modified, [configurationFile]⟩, .turned 1,
        .edited saysFragment, .notified 100 ⟨.modified, [configurationFile]⟩, .turned 1]
    let last := Moment.run opened.1 { state := opened.2 } happenings
    opened.1.configurationFile? = some configurationFile ∧ last.waiting = [] ∧
      Configuration.loadFrom last.files configurationFile =
        .ok { variant := { extension := "frag" } } ∧
      last.state.session.settings = { platform := .gles20 } := by
  decide +kernel

end ShaderVariants.WatchMode
