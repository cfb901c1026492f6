import Mathlib.Data.List.Forall2
import ShaderVariants.Proofs.Watcher

/-!
What a stream of notifications is turned into.

The files may change between any two notifications (`receiveEach`); those of one edit are the case
in which they do not (`receiveAll_eq_receiveEach`).  All that matters of a stream is which
paths its notifications name, one after the other (`receiveEach_eq`), and for the messages about one
path only where that path is named (`filter_concerns_hear`).  Within one debounce interval the
watcher knows of a path, from its first naming on, that it comes too soon (`Remembers`), so what it
sends are the messages for the first namings (`tells_firsts`).
-/
namespace ShaderVariants

/-- A notification at the time of its arrival, and the files as they are then. -/
structure Arrival where
  now : Nat
  files : FileSystem
  notification : Notification

/-- A path that is named when something was modified or created. -/
structure Naming where
  now : Nat
  files : FileSystem
  path : Path

def Arrival.namings (arrival : Arrival) : List Naming :=
  if arrival.notification.kind.isRelevant then
    arrival.notification.paths.map (⟨arrival.now, arrival.files, ·⟩)
  else []

/-- The namings of paths that are not named further in front. -/
def firsts (namings : List Naming) : List Naming :=
  namings.eraseDupsBy fun later first => first.path.agrees later.path

/-- The notification with the spellings of one path only. -/
def Arrival.only (path : Path) (arrival : Arrival) : Arrival :=
  { arrival with notification :=
      ⟨arrival.notification.kind, arrival.notification.paths.filter (·.agrees path)⟩ }

theorem namings_within {arrivals : List Arrival} {start stop : Nat}
    (within : ∀ arrival ∈ arrivals, start ≤ arrival.now ∧ arrival.now < stop) :
    ∀ naming ∈ arrivals.flatMap Arrival.namings, start ≤ naming.now ∧ naming.now < stop := by
  intro naming member
  obtain ⟨arrival, among, named⟩ := List.mem_flatMap.mp member
  unfold Arrival.namings at named
  split at named
  · obtain ⟨path, -, rfl⟩ := List.mem_map.mp named
    exact within arrival among
  · cases named

theorem namings_only (path : Path) (arrivals : List Arrival) :
    ((arrivals.filter (·.notification.kind.isRelevant)).map (Arrival.only path)).flatMap
        Arrival.namings =
      (arrivals.flatMap Arrival.namings).filter (·.path.agrees path) := by
  induction arrivals with
  | nil => rfl
  | cons arrival rest ih =>
      rw [List.filter_cons, List.flatMap_cons, List.filter_append, ← ih, Arrival.namings]
      split
      · next relevant =>
          rw [List.map_cons, List.flatMap_cons, List.filter_map]
          exact congrArg (· ++ _) (if_pos relevant)
      · rfl

theorem firsts_of_agreeing {naming : Naming} {rest : List Naming}
    (agreeing : ∀ later ∈ rest, naming.path.agrees later.path = true) :
    firsts (naming :: rest) = [naming] := by
  have none_left : rest.filter (fun later => decide (naming.path.agrees later.path = false)) = [] :=
    List.filter_eq_nil_iff.mpr fun later member => by simp [agreeing later member]
  rw [firsts, List.eraseDupsBy_cons, none_left]
  rfl

namespace Watcher

variable {watcher : Watcher} {naming : Naming} {namings : List Naming} {path : Path}
  {start now : Nat}

/-- Handles notifications in order, each with the files as they are when it arrives. -/
def receiveEach (watcher : Watcher) : List Arrival → Watcher × List WatchEvent
  | [] => (watcher, [])
  | arrival :: rest =>
      let (watcher, events) := watcher.receive arrival.now arrival.files arrival.notification
      let (watcher, later) := receiveEach watcher rest
      (watcher, events ++ later)

/-- The notifications of one edit arrive while the files stay as they are. -/
theorem receiveAll_eq_receiveEach (watcher : Watcher) (files : FileSystem)
    (notifications : List (Nat × Notification)) :
    watcher.receiveAll files notifications =
      watcher.receiveEach (notifications.map fun timed => ⟨timed.1, files, timed.2⟩) := by
  induction notifications generalizing watcher with
  | nil => rfl
  | cons timed rest ih => simp only [receiveAll, List.map_cons, receiveEach, ih]

/-- Handles paths that are named one by one. -/
def hear (watcher : Watcher) : List Naming → Watcher × List WatchEvent
  | [] => (watcher, [])
  | naming :: rest =>
      let (watcher, events) := watcher.receivePath naming.now naming.files naming.path
      let (watcher, later) := hear watcher rest
      (watcher, events ++ later)

/-- What is to be said about a named path: what the configuration file says or why it cannot be
loaded, and of any other file that it changed. -/
def Tells (watcher : Watcher) (naming : Naming) : WatchEvent → Prop
  | .configurationChanged configuration => watcher.isConfiguration naming.path = true ∧
      Configuration.loadFrom naming.files naming.path = .ok configuration
  | .failed error => watcher.isConfiguration naming.path = true ∧
      Configuration.loadFrom naming.files naming.path = .error error
  | .shaderChanged path => watcher.isConfiguration naming.path = false ∧
      watcher.isShader naming.path = true ∧ path = naming.path

/-- Whether a message is one about a path. -/
def concerns (watcher : Watcher) (path : Path) : WatchEvent → Bool
  | .configurationChanged _ | .failed _ => watcher.isConfiguration path
  | .shaderChanged other => !watcher.isConfiguration path && other.agrees path

/-- Nothing has counted so late that it makes anything come too soon from `start` on. -/
def Rested (watcher : Watcher) (start : Nat) : Prop :=
  ∀ entry ∈ watcher.counted, entry.2 + watcher.debounce ≤ start

theorem hear_cons (watcher : Watcher) (naming : Naming) (rest : List Naming) :
    watcher.hear (naming :: rest) =
      let first := watcher.receivePath naming.now naming.files naming.path
      let later := first.1.hear rest
      (later.1, first.2 ++ later.2) := rfl

theorem hear_append (watcher : Watcher) (front back : List Naming) :
    watcher.hear (front ++ back) =
      let first := watcher.hear front
      let later := first.1.hear back
      (later.1, first.2 ++ later.2) := by
  induction front generalizing watcher with
  | nil => rfl
  | cons naming rest ih => simp only [List.cons_append, hear_cons, ih, List.append_assoc]

theorem receivePaths_eq_hear (watcher : Watcher) (now : Nat) (files : FileSystem)
    (paths : List Path) :
    watcher.receivePaths now files paths = watcher.hear (paths.map (⟨now, files, ·⟩)) := by
  induction paths generalizing watcher with
  | nil => rfl
  | cons path rest ih => simp only [receivePaths_cons, List.map_cons, hear_cons, ih]

theorem receive_eq_hear (watcher : Watcher) (arrival : Arrival) :
    watcher.receive arrival.now arrival.files arrival.notification =
      watcher.hear arrival.namings := by
  unfold receive Arrival.namings
  split
  · exact receivePaths_eq_hear _ _ _ _
  · rfl

/-- Of a stream of notifications, what they name is heard. -/
theorem receiveEach_eq (watcher : Watcher) (arrivals : List Arrival) :
    watcher.receiveEach arrivals = watcher.hear (arrivals.flatMap Arrival.namings) := by
  induction arrivals generalizing watcher with
  | nil => rfl
  | cons arrival rest ih =>
      simp only [receiveEach, List.flatMap_cons, hear_append, receive_eq_hear, ih]

theorem tells_message (watched : watcher.isWatched naming.path = true) :
    watcher.Tells naming (watcher.message naming.files naming.path) := by
  unfold message
  cases about : watcher.isConfiguration naming.path with
  | true =>
      rw [if_pos rfl]
      cases loaded : Configuration.loadFrom naming.files naming.path with
      | ok configuration => exact ⟨about, loaded⟩
      | error error => exact ⟨about, loaded⟩
  | false =>
      rw [isWatched, about, Bool.false_or] at watched
      exact ⟨about, watched, rfl⟩

theorem isTooSoon_of_rested (rested : watcher.Rested start) (late : start ≤ now) (path : Path) :
    watcher.isTooSoon now path = false := by
  unfold isTooSoon lastCounted?
  cases found : watcher.counted.find? (fun entry => entry.1.agrees path) with
  | none => rfl
  | some entry =>
      have before := rested entry (List.mem_of_find?_eq_some found)
      simp only [Option.map_some, Option.any_some, decide_eq_false_iff_not]
      omega

/-- From `start` on and for a debounce interval, the paths that come too soon are the heard ones. -/
def Remembers (watcher : Watcher) (start : Nat) (heard : List Path) : Prop :=
  ∀ now path, start ≤ now → now < start + watcher.debounce →
    watcher.isTooSoon now path = heard.any (·.agrees path)

theorem remembers_nil (rested : watcher.Rested start) : watcher.Remembers start [] :=
  fun _ path late _ => isTooSoon_of_rested rested late path

/-- A path that has counted is remembered besides those that are remembered already. -/
theorem Remembers.counted {heard : List Path} (remembers : watcher.Remembers start heard)
    (after_start : start ≤ now) (path : Path) :
    (watcher.counting now path).Remembers start (path :: heard) := by
  intro later other late early
  have soon : later < start + watcher.debounce := early
  rw [List.any_cons]
  cases agreeing : path.agrees other with
  | true =>
      have still : later - now < watcher.debounce := by omega
      rw [isTooSoon, lastCounted?_counting, if_pos agreeing, Bool.true_or]
      exact decide_eq_true still
  | false =>
      rw [isTooSoon_counting watcher now later agreeing, remembers later other late soon,
        Bool.false_or]

/-- The namings of watched paths besides the heard ones. -/
def unheard (watcher : Watcher) (heard : List Path) (namings : List Naming) : List Naming :=
  namings.filter fun naming => watcher.isWatched naming.path && !heard.any (·.agrees naming.path)

theorem unheard_nil (watcher : Watcher) (namings : List Naming) :
    watcher.unheard [] namings = namings.filter (watcher.isWatched ·.path) := by
  simp only [unheard, List.any_nil, Bool.not_false, Bool.and_true]

theorem unheard_cons_skip {heard : List Path}
    (known : watcher.isWatched naming.path = false ∨ heard.any (·.agrees naming.path) = true)
    (rest : List Naming) : watcher.unheard heard (naming :: rest) = watcher.unheard heard rest := by
  apply List.filter_cons_of_neg
  rcases known with unwatched | known
  · simp [unwatched]
  · simp [known]

theorem firsts_unheard_cons {heard : List Path} (watched : watcher.isWatched naming.path = true)
    (new : heard.any (·.agrees naming.path) = false) (rest : List Naming) :
    firsts (watcher.unheard heard (naming :: rest)) =
      naming :: firsts (watcher.unheard (naming.path :: heard) rest) := by
  have counts : (watcher.isWatched naming.path && !heard.any (·.agrees naming.path)) = true := by
    rw [watched, new]
    rfl
  unfold unheard firsts
  rw [List.filter_cons, if_pos counts, List.eraseDupsBy_cons, List.filter_filter]
  congr 3
  funext later
  rw [List.any_cons, Bool.not_or, Bool.and_left_comm]
  cases naming.path.agrees later.path <;> rfl

/-- Within a debounce interval the first namings of watched paths are told, each once. -/
theorem tells_firsts {heard : List Path} (remembers : watcher.Remembers start heard)
    (within : ∀ naming ∈ namings,
      start ≤ naming.now ∧ naming.now < start + watcher.debounce) :
    List.Forall₂ watcher.Tells (firsts (watcher.unheard heard namings)) (watcher.hear namings).2 := by
  induction namings generalizing watcher heard with
  | nil => exact .nil
  | cons naming rest ih =>
      obtain ⟨⟨late, soon⟩, within_rest⟩ := List.forall_mem_cons.mp within
      have remembered := remembers naming.now naming.path late soon
      rw [hear_cons]
      rcases receivePath_cases watcher naming.now naming.files naming.path with
        ⟨known, ignored⟩ | ⟨watched, new, sent⟩
      · rw [remembered] at known
        rw [unheard_cons_skip known, ignored]
        exact ih remembers within_rest
      · rw [remembered] at new
        rw [firsts_unheard_cons watched new, sent]
        exact .cons (tells_message watched)
          (ih (remembers.counted late naming.path) within_rest)

theorem isTooSoon_of_debounce_eq_zero (undelayed : watcher.debounce = 0) (now : Nat)
    (path : Path) : watcher.isTooSoon now path = false := by
  simp [isTooSoon, undelayed]

/-- Without a debounce interval every naming of a watched path is told. -/
theorem tells_of_debounce_eq_zero (undelayed : watcher.debounce = 0) (namings : List Naming) :
    List.Forall₂ watcher.Tells (namings.filter (watcher.isWatched ·.path))
      (watcher.hear namings).2 := by
  induction namings generalizing watcher with
  | nil => exact .nil
  | cons naming rest ih =>
      rw [hear_cons]
      cases watched : watcher.isWatched naming.path with
      | false =>
          rw [receivePath_of_unheard (.inl watched), List.filter_cons, if_neg (by simp [watched])]
          exact ih undelayed
      | true =>
          have due := isTooSoon_of_debounce_eq_zero undelayed naming.now naming.path
          rw [receivePath_of_due watched due, List.filter_cons, if_pos watched]
          exact .cons (tells_message watched) (@ih (watcher.counting naming.now naming.path) undelayed)

/-- A message is about the paths that agree with the one it was sent for. -/
theorem concerns_message (watcher : Watcher) (files : FileSystem) (named path : Path) :
    watcher.concerns path (watcher.message files named) = named.agrees path := by
  unfold message
  cases about : watcher.isConfiguration named with
  | true =>
      obtain ⟨file, placed, agreeing⟩ := isConfiguration_iff.mp about
      have same : watcher.isConfiguration path = named.agrees path := by
        rw [isConfiguration, placed, Option.any_some, Path.agrees, Path.agrees,
          Path.agrees_iff.mp agreeing]
        simp only [eq_comm]
      rw [if_pos rfl]
      cases Configuration.loadFrom files named with
      | ok configuration => exact same
      | error error => exact same
  | false =>
      change (!watcher.isConfiguration path && named.agrees path) = named.agrees path
      cases agreeing : named.agrees path with
      | false => rw [Bool.and_false]
      | true => rw [← isConfiguration_of_agrees agreeing, about, Bool.not_false, Bool.true_and]

/-- What is sent about a path depends on its own namings and on when it last counted. -/
theorem filter_concerns_hear_of_alike {counted : List (Path × Nat)}
    (alike : ({ watcher with counted } : Watcher).lastCounted? path = watcher.lastCounted? path)
    (namings : List Naming) :
    (watcher.hear namings).2.filter (watcher.concerns path) =
      (({ watcher with counted } : Watcher).hear (namings.filter (·.path.agrees path))).2 := by
  -- The watchers part where another path counts in one of them only, but stay alike for `path`.
  induction namings generalizing watcher counted with
  | nil => rfl
  | cons naming rest ih =>
      have later := lastCounted?_counting watcher naming.now naming.path path
      have concerned := concerns_message watcher naming.files naming.path path
      rw [hear_cons, List.filter_append, List.filter_cons]
      cases agreeing : naming.path.agrees path with
      | false =>
          rw [agreeing] at later concerned
          rcases receivePath_cases watcher naming.now naming.files naming.path with
            ⟨-, ignored⟩ | ⟨-, -, sent⟩
          · rw [ignored]
            exact ih alike
          · rw [sent, List.filter_cons, concerned]
            exact @ih (watcher.counting naming.now naming.path) counted (alike.trans later.symm)
      | true =>
          have soon : ({ watcher with counted } : Watcher).isTooSoon naming.now naming.path =
              watcher.isTooSoon naming.now naming.path := by
            rw [isTooSoon_of_agrees agreeing, isTooSoon_of_agrees agreeing, isTooSoon, alike]
            rfl
          rw [if_pos rfl, hear_cons]
          rcases receivePath_cases watcher naming.now naming.files naming.path with
            ⟨unheard, ignored⟩ | ⟨watched, due, sent⟩
          · rw [← soon] at unheard
            rw [ignored, receivePath_of_unheard unheard]
            exact ih alike
          · have watched_alike :
                ({ watcher with counted } : Watcher).isWatched naming.path = true := watched
            have again := lastCounted?_counting { watcher with counted } naming.now naming.path path
            rw [agreeing] at later again concerned
            rw [sent, receivePath_of_due watched_alike (soon.trans due), List.filter_cons, concerned]
            exact congrArg (_ :: ·)
              (@ih (watcher.counting naming.now naming.path) _ (again.trans later.symm))

theorem filter_concerns_hear (watcher : Watcher) (path : Path) (namings : List Naming) :
    (watcher.hear namings).2.filter (watcher.concerns path) =
      (watcher.hear (namings.filter (·.path.agrees path))).2 :=
  filter_concerns_hear_of_alike rfl namings

/-- A watched path that is named again and again within the interval has one message. -/
theorem tells_repeated {rest : List Naming} (rested : watcher.Rested start)
    (within : ∀ later ∈ naming :: rest, start ≤ later.now ∧ later.now < start + watcher.debounce)
    (agreeing : ∀ later ∈ naming :: rest, later.path.agrees path = true)
    (watched : watcher.isWatched path = true) :
    ∃ event, (watcher.hear (naming :: rest)).2 = [event] ∧ watcher.Tells naming event := by
  have all_watched : watcher.unheard [] (naming :: rest) = naming :: rest := by
    rw [unheard_nil, List.filter_eq_self]
    intro later member
    have same := agreeing later member
    rw [isWatched, isConfiguration_of_agrees same, isShader_of_agrees same]
    exact watched
  have alone : firsts (naming :: rest) = [naming] := by
    apply firsts_of_agreeing
    intro later member
    have same := agreeing later (List.mem_cons_of_mem _ member)
    have first_same := agreeing naming List.mem_cons_self
    rw [Path.agrees_iff] at same first_same ⊢
    rw [first_same, same]
  have told := tells_firsts (remembers_nil rested) within
  rw [all_watched, alone, List.forall₂_cons_left_iff] at told
  obtain ⟨event, others, tells, nothing, sent⟩ := told
  rw [List.forall₂_nil_left_iff.mp nothing] at sent
  exact ⟨event, sent, tells⟩

/-- Of a watcher that has come to rest, the messages within a debounce interval are those for the
first namings of the watched paths, sent in the order of these namings and each when it is heard.
Without an interval every naming of a watched path has one.  In any case the messages about a path
are those that its own namings alone would cause. -/
theorem receiveEach_sends (watcher : Watcher) (arrivals : List Arrival) :
    (∀ start, watcher.Rested start →
      (∀ arrival ∈ arrivals, start ≤ arrival.now ∧ arrival.now < start + watcher.debounce) →
      (∀ count, List.Forall₂ watcher.Tells
        (firsts (((arrivals.take count).flatMap Arrival.namings).filter
          (watcher.isWatched ·.path)))
        (watcher.receiveEach (arrivals.take count)).2) ∧
      ∀ path naming, watcher.isWatched path = true →
        (arrivals.flatMap Arrival.namings).find? (·.path.agrees path) = some naming →
        ∃ event, (watcher.receiveEach arrivals).2.filter (watcher.concerns path) = [event] ∧
          watcher.Tells naming event) ∧
    (watcher.debounce = 0 → List.Forall₂ watcher.Tells
      ((arrivals.flatMap Arrival.namings).filter (watcher.isWatched ·.path))
      (watcher.receiveEach arrivals).2) ∧
    ∀ path, (watcher.receiveEach arrivals).2.filter (watcher.concerns path) =
      (watcher.receiveEach
        ((arrivals.filter (·.notification.kind.isRelevant)).map (Arrival.only path))).2 := by
  refine ⟨fun start rested within => ⟨fun count => ?_, fun path naming watched first => ?_⟩,
    fun undelayed => ?_, fun path => ?_⟩
  · rw [receiveEach_eq, ← unheard_nil]
    exact tells_firsts (remembers_nil rested)
      (namings_within fun arrival member => within arrival (List.mem_of_mem_take member))
  · obtain ⟨rest, named⟩ : ∃ rest, (arrivals.flatMap Arrival.namings).filter
        (·.path.agrees path) = naming :: rest := by
      rw [← List.head?_filter, List.head?_eq_some_iff] at first
      exact first
    have member_named : ∀ later ∈ naming :: rest,
        later ∈ arrivals.flatMap Arrival.namings ∧ later.path.agrees path = true := by
      rw [← named]
      exact fun later member => List.mem_filter.mp member
    rw [receiveEach_eq, filter_concerns_hear, named]
    exact tells_repeated rested
      (fun later member => namings_within within later (member_named later member).1)
      (fun later member => (member_named later member).2) watched
  · rw [receiveEach_eq]
    exact tells_of_debounce_eq_zero undelayed _
  · rw [receiveEach_eq, receiveEach_eq, namings_only]
    exact filter_concerns_hear watcher path _

theorem receiveEach_sends_of_burst :
    let watcher : Watcher :=
      ⟨some ⟨"/w/c.toml"⟩, [⟨"/w/a.glsl"⟩, ⟨"/w/c.toml"⟩], 200, [], []⟩
    let arrivals : List Arrival :=
      [⟨1000, {}, .modified, [⟨"/w/a.glsl"⟩, ⟨"/w/b.glsl"⟩]⟩,
        ⟨1050, {}, .removed, [⟨"/w/c.toml"⟩]⟩,
        ⟨1100, {}, .created, [⟨"/w/c.toml"⟩, ⟨"/w//a.glsl"⟩]⟩,
        ⟨1199, {}, .modified, [⟨"/w/c.toml"⟩]⟩]
    (watcher.Rested 1000 ∧
      ∀ arrival ∈ arrivals, 1000 ≤ arrival.now ∧ arrival.now < 1000 + watcher.debounce) ∧
    List.Forall₂ watcher.Tells [⟨1000, {}, ⟨"/w/a.glsl"⟩⟩, ⟨1100, {}, ⟨"/w/c.toml"⟩⟩]
      (watcher.receiveEach arrivals).2 ∧
    (watcher.isWatched ⟨"/w/c.toml"⟩ = true ∧
      ∃ event, (watcher.receiveEach arrivals).2.filter (watcher.concerns ⟨"/w/c.toml"⟩) = [event] ∧
        watcher.Tells ⟨1100, {}, ⟨"/w/c.toml"⟩⟩ event) ∧
    List.Forall₂ ({ watcher with debounce := 0 } : Watcher).Tells
      [⟨1000, {}, ⟨"/w/a.glsl"⟩⟩, ⟨1100, {}, ⟨"/w/c.toml"⟩⟩, ⟨1100, {}, ⟨"/w//a.glsl"⟩⟩,
        ⟨1199, {}, ⟨"/w/c.toml"⟩⟩]
      (({ watcher with debounce := 0 } : Watcher).receiveEach arrivals).2 := by
  intro watcher arrivals
  have rested : watcher.Rested 1000 := fun entry member => nomatch member
  have within : ∀ arrival ∈ arrivals,
      1000 ≤ arrival.now ∧ arrival.now < 1000 + watcher.debounce := by
    simp [arrivals, watcher]
  have watched : watcher.isWatched ⟨"/w/c.toml"⟩ = true := by decide
  obtain ⟨burst, -⟩ := receiveEach_sends watcher arrivals
  have all := (burst 1000 rested within).1 4
  have one := (burst 1000 rested within).2 ⟨"/w/c.toml"⟩ ⟨1100, {}, ⟨"/w/c.toml"⟩⟩ watched rfl
  have each := (receiveEach_sends { watcher with debounce := 0 } arrivals).2.1 rfl
  exact ⟨⟨rested, within⟩, all, ⟨watched, one⟩, each⟩

end Watcher

end ShaderVariants
