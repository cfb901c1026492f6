import ShaderVariants.Proofs.Configuration
import ShaderVariants.Watcher

/-!
Notifications and messages.

Every message is about a watched path that a notification names (`message_of_mem_receive`), and a
watched path is passed on whenever it does not come too soon (`message_mem_receive`).  What a
message says about the configuration is what the file says (`configuration_of_mem_receive`).
-/
namespace ShaderVariants

namespace Watcher

variable {watcher : Watcher} {now : Nat} {files : FileSystem} {path other : Path}
  {paths : List Path} {notification : Notification} {event : WatchEvent}

/-- Whether changes of `path` are passed on. -/
def isWatched (watcher : Watcher) (path : Path) : Bool :=
  watcher.isConfiguration path || watcher.isShader path

theorem isConfiguration_iff :
    watcher.isConfiguration path = true ↔
      ∃ file, watcher.configurationFile? = some file ∧ path.agrees file = true :=
  Option.any_eq_true _ _

theorem isConfiguration_of_agrees (agreeing : other.agrees path = true) :
    watcher.isConfiguration other = watcher.isConfiguration path := by
  have same := Path.agrees_iff.mp agreeing
  unfold isConfiguration Path.agrees
  rw [same]

theorem isShader_of_agrees (agreeing : other.agrees path = true) :
    watcher.isShader other = watcher.isShader path := by
  have same := Path.agrees_iff.mp agreeing
  unfold isShader Path.agrees
  rw [same]

theorem isTooSoon_of_agrees (agreeing : other.agrees path = true) :
    watcher.isTooSoon now other = watcher.isTooSoon now path := by
  have same := Path.agrees_iff.mp agreeing
  unfold isTooSoon lastCounted? Path.agrees
  rw [same]

/-- The watcher once a notification of a path has counted. -/
def counting (watcher : Watcher) (now : Nat) (path : Path) : Watcher :=
  { watcher with
    counted := (path, now) :: watcher.counted.filter fun entry => !entry.1.agrees path }

theorem receivePath_of_due (watched : watcher.isWatched path = true)
    (due : watcher.isTooSoon now path = false) (files : FileSystem) :
    watcher.receivePath now files path =
      (watcher.counting now path, [watcher.message files path]) := by
  have listed : ¬(!watcher.isConfiguration path && !watcher.isShader path) = true := by
    rw [← Bool.not_or, ← isWatched, watched]
    simp
  rw [receivePath, if_neg listed, if_neg (by simp [due])]
  rfl

theorem receivePath_of_unheard
    (unheard : watcher.isWatched path = false ∨ watcher.isTooSoon now path = true)
    (files : FileSystem) : watcher.receivePath now files path = (watcher, []) := by
  unfold receivePath
  rw [← Bool.not_or, ← isWatched]
  rcases unheard with unwatched | soon
  · rw [if_pos (by rw [unwatched]; rfl)]
  · rw [if_pos soon, ite_self]

/-- A watched path has a message sent, unless it comes too soon, and counts from now on; otherwise
nothing comes of a path. -/
theorem receivePath_cases (watcher : Watcher) (now : Nat) (files : FileSystem) (path : Path) :
    (watcher.isWatched path = false ∨ watcher.isTooSoon now path = true) ∧
        watcher.receivePath now files path = (watcher, []) ∨
      watcher.isWatched path = true ∧ watcher.isTooSoon now path = false ∧
        watcher.receivePath now files path =
          (watcher.counting now path, [watcher.message files path]) := by
  cases watched : watcher.isWatched path with
  | false => exact .inl ⟨.inl rfl, receivePath_of_unheard (.inl watched) files⟩
  | true =>
      cases soon : watcher.isTooSoon now path with
      | true => exact .inl ⟨.inr rfl, receivePath_of_unheard (.inr soon) files⟩
      | false => exact .inr ⟨rfl, rfl, receivePath_of_due watched soon files⟩

theorem receivePath_keeps (watcher : Watcher) (now : Nat) (files : FileSystem) (path : Path) :
    ∃ counted, (watcher.receivePath now files path).1 = { watcher with counted } := by
  rcases receivePath_cases watcher now files path with
    ⟨-, ignored⟩ | ⟨-, -, sent⟩
  · exact ⟨_, by rw [ignored]⟩
  · exact ⟨_, by rw [sent, counting]⟩

theorem lastCounted?_counting (watcher : Watcher) (now : Nat) (path other : Path) :
    (watcher.counting now path).lastCounted? other =
      if path.agrees other then some now else watcher.lastCounted? other := by
  unfold counting lastCounted?
  cases agreeing : path.agrees other with
  | true =>
      rw [List.find?_cons_of_pos (by exact agreeing)]
      rfl
  | false =>
      -- The entries that go are those of `path`, and none of them is one of `other`.
      rw [List.find?_cons_of_neg (by simp [agreeing]), List.find?_filter, if_neg Bool.false_ne_true]
      congr 2
      funext entry
      cases placed : entry.1.agrees other with
      | false => simp
      | true =>
          have differs : entry.1.agrees path = false := by
            rw [Path.agrees, Path.agrees_iff.mp placed]
            rw [Path.agrees] at agreeing
            simpa [eq_comm] using agreeing
          simp [differs]

/-- When one path counts does not matter to another one. -/
theorem isTooSoon_counting (watcher : Watcher) (now later : Nat)
    (apart : other.agrees path = false) :
    (watcher.counting now other).isTooSoon later path = watcher.isTooSoon later path := by
  rw [isTooSoon, lastCounted?_counting, apart]
  rfl

theorem isTooSoon_receivePath (watcher : Watcher) (now later : Nat) (files : FileSystem)
    (apart : other.agrees path = false) :
    (watcher.receivePath now files other).1.isTooSoon later path =
      watcher.isTooSoon later path := by
  rcases receivePath_cases watcher now files other with
    ⟨-, ignored⟩ | ⟨-, -, sent⟩
  · rw [ignored]
  · rw [sent, isTooSoon_counting watcher now later apart]

theorem receivePaths_cons (watcher : Watcher) (now : Nat) (files : FileSystem) (path : Path)
    (rest : List Path) :
    watcher.receivePaths now files (path :: rest) =
      let first := watcher.receivePath now files path
      let later := first.1.receivePaths now files rest
      (later.1, first.2 ++ later.2) := rfl

theorem receivePaths_keeps (watcher : Watcher) (now : Nat) (files : FileSystem)
    (paths : List Path) :
    ∃ counted, (watcher.receivePaths now files paths).1 = { watcher with counted } := by
  induction paths generalizing watcher with
  | nil => exact ⟨_, rfl⟩
  | cons path rest ih =>
      obtain ⟨first, kept⟩ := receivePath_keeps watcher now files path
      obtain ⟨counted, later⟩ := ih (watcher.receivePath now files path).1
      exact ⟨counted, by rw [receivePaths_cons, later, kept]⟩

theorem receive_keeps (watcher : Watcher) (now : Nat) (files : FileSystem)
    (notification : Notification) :
    ∃ counted, (watcher.receive now files notification).1 = { watcher with counted } := by
  unfold receive
  split
  · exact receivePaths_keeps watcher now files notification.paths
  · exact ⟨_, rfl⟩

theorem message_of_mem_receivePaths
    (member : event ∈ (watcher.receivePaths now files paths).2) :
    ∃ path ∈ paths, watcher.isWatched path = true ∧ event = watcher.message files path := by
  induction paths generalizing watcher with
  | nil => cases member
  | cons path rest ih =>
      rw [receivePaths_cons] at member
      rcases List.mem_append.mp member with first | later
      · rcases receivePath_cases watcher now files path with
          ⟨-, ignored⟩ | ⟨watched, -, sent⟩
        · rw [ignored] at first
          cases first
        · rw [sent, List.mem_singleton] at first
          exact ⟨path, List.mem_cons_self, watched, first⟩
      · obtain ⟨counted, kept⟩ := receivePath_keeps watcher now files path
        obtain ⟨named, among, watched, same⟩ := ih later
        rw [kept] at watched same
        exact ⟨named, List.mem_cons_of_mem path among, watched, same⟩

/-- Every message is about a watched path that was named. -/
theorem message_of_mem_receive
    (member : event ∈ (watcher.receive now files notification).2) :
    ∃ path ∈ notification.paths, watcher.isWatched path = true ∧
      event = watcher.message files path := by
  unfold receive at member
  split at member
  · exact message_of_mem_receivePaths member
  · cases member

theorem message_mem_receivePaths (named : path ∈ paths)
    (watched : watcher.isWatched path = true) (due : watcher.isTooSoon now path = false) :
    ∃ other ∈ paths, other.agrees path = true ∧
      watcher.message files other ∈ (watcher.receivePaths now files paths).2 := by
  induction paths generalizing watcher with
  | nil => cases named
  | cons first rest ih =>
      rw [receivePaths_cons]
      cases agreeing : first.agrees path with
      | true =>
          have sent : watcher.receivePath now files first =
              (watcher.counting now first, [watcher.message files first]) := by
            apply receivePath_of_due
            · rw [isWatched, isConfiguration_of_agrees agreeing, isShader_of_agrees agreeing]
              exact watched
            · rw [isTooSoon_of_agrees agreeing, due]
          refine ⟨first, List.mem_cons_self, agreeing, ?_⟩
          apply List.mem_append_left
          rw [sent]
          exact List.mem_singleton_self _
      | false =>
          have later : path ∈ rest := by
            rcases List.mem_cons.mp named with rfl | later
            · rw [Path.agrees_iff.mpr rfl] at agreeing
              cases agreeing
            · exact later
          obtain ⟨counted, kept⟩ := receivePath_keeps watcher now files first
          have still_watched : ({ watcher with counted } : Watcher).isWatched path = true := watched
          have still_due := isTooSoon_receivePath watcher now now files agreeing
          rw [kept, due] at still_due
          obtain ⟨other, among, same, sent⟩ := ih later still_watched still_due
          refine ⟨other, List.mem_cons_of_mem first among, same, ?_⟩
          apply List.mem_append_right
          rw [kept]
          exact sent

/-- A watched path that is named in time is passed on, if perhaps spelled in another way. -/
theorem message_mem_receive (files : FileSystem) (relevant : notification.kind.isRelevant = true)
    (named : path ∈ notification.paths) (watched : watcher.isWatched path = true)
    (due : watcher.isTooSoon now path = false) :
    ∃ other ∈ notification.paths, other.agrees path = true ∧
      watcher.message files other ∈ (watcher.receive now files notification).2 := by
  rw [receive, if_pos relevant]
  exact message_mem_receivePaths named watched due

/-- A configuration in a message is what is in the configuration file. -/
theorem configuration_of_mem_receive {configuration newest : Configuration}
    (placed : watcher.isConfiguration path = true)
    (read : Configuration.loadFrom files path = .ok configuration)
    (member : .configurationChanged newest ∈ (watcher.receive now files notification).2) :
    newest = configuration := by
  obtain ⟨named, -, -, same⟩ := message_of_mem_receive member
  obtain ⟨file, watched, agreeing⟩ := isConfiguration_iff.mp placed
  unfold message at same
  split at same
  · next about =>
      obtain ⟨again, watched_again, naming⟩ := isConfiguration_iff.mp about
      rw [watched] at watched_again
      cases watched_again
      have spelled : named.agrees path = true := by
        rw [Path.agrees_iff] at agreeing naming ⊢
        rw [agreeing, naming]
      cases loaded : Configuration.loadFrom files named with
      | error error => simp [loaded] at same
      | ok stored =>
          rw [loaded] at same
          cases same
          exact Configuration.loadFrom_of_agrees spelled read loaded
  · cases same

end Watcher

end ShaderVariants
