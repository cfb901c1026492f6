import ShaderVariants.Proofs.WatchMode.Batches
import ShaderVariants.Proofs.WatchMode.Following

/-!
Watches that the system refuses.

`start` and `iterate` take it that a new watcher gets its watches.  Where the system may refuse them,
the program ends with the reason.  `startWith` and `iterateWith` are told why a watcher is refused, if
it is.  Until a watcher is refused they do what `start` and `iterate` do, so that whatever holds of
the states that watching leads to holds here too (`reached_of_lasting`).  The loop ends in the first
turn whose new watcher is refused and never otherwise (`loopWith_eq_error_iff`).
-/
namespace ShaderVariants.WatchMode

variable {refusal? : Watcher → Option String} {setup : Setup} {configuration : Configuration}
  {state last : State} {watcher : Watcher} {batch : List WatchEvent}
  {batches : List (List WatchEvent)} {error : ConfigurationError} {reason : String}

/-- The watcher that a turn starts: a message tells of the shader, it can be read again with all the
choices, and its files are others now. -/
def renewed? (setup : Setup) (batch : List WatchEvent) (state : State) : Option Watcher :=
  match shaderChanged batch, refresh setup (configured setup batch state.session) state.machine with
  | true, ⟨session, machine, .ok ()⟩ =>
      if (shaderPaths session machine.files).map Path.components =
          state.watcher.shaderPaths.map Path.components then none
      else some (watcherFor setup session machine.files)
  | _, _ => none

/-- `start` on a system that may refuse to watch; the first cycle has run by then. -/
def startWith (refusal? : Watcher → Option String) (oracle : Oracle) (options : CycleOptions)
    (machine : Machine) : Run × Option (Setup × State) :=
  match start oracle options machine with
  | (run, none) => (run, none)
  | (run, some (setup, state)) =>
      match refusal? state.watcher with
      | none => (run, some (setup, state))
      | some reason => ({ run with failure? := some (.configuration (.watch reason)) }, none)

/-- `iterate` on a system that may refuse to watch; the program ends before the cycle of the turn. -/
def iterateWith (refusal? : Watcher → Option String) (setup : Setup) (batch : List WatchEvent)
    (state : State) : Except ConfigurationError (State × Reaction) :=
  match (renewed? setup batch state).bind refusal? with
  | none => .ok (iterate setup batch state)
  | some reason => .error (.watch reason)

/-- `turnAll` on a system that may refuse to watch. -/
def loopWith (refusal? : Watcher → Option String) (setup : Setup) :
    List (List WatchEvent) → State → Except ConfigurationError State
  | [], state => .ok state
  | batch :: batches, state =>
      match iterateWith refusal? setup batch state with
      | .error error => .error error
      | .ok (next, _) => loopWith refusal? setup batches next

/-- The states that watching leads to until the system refuses a watcher, each with the last
configuration delivered so far. -/
inductive Lasting (refusal? : Watcher → Option String) (setup : Setup) :
    Configuration → State → Prop where
  | started {machine loaded : Machine} {configuration : Configuration} {state : State}
      (read : Configuration.load machine = .ok (configuration, loaded))
      (began : (startWith refusal? setup.oracle setup.options machine).2 = some (setup, state)) :
      Lasting refusal? setup configuration state
  | turned {configuration : Configuration} {state next : State} {reaction : Reaction}
      (before : Lasting refusal? setup configuration state) (batch : List WatchEvent)
      (went : iterateWith refusal? setup batch state = .ok (next, reaction)) :
      Lasting refusal? setup ((newConfiguration? batch).getD configuration) next
  | disturbed {configuration : Configuration} {state : State}
      (before : Lasting refusal? setup configuration state) (watcher : Watcher)
      (machine : Machine) :
      Lasting refusal? setup configuration { state with watcher, machine }

/-- A turn goes on with the watcher it starts, and with the one it has if it starts none. -/
theorem watcher_iterate_eq (setup : Setup) (batch : List WatchEvent) (state : State) :
    (iterate setup batch state).1.watcher = (renewed? setup batch state).getD state.watcher := by
  have turn := turn_iterate setup batch state
  generalize iterate setup batch state = result at turn
  cases turn with
  | idle quiet unchanged => rw [renewed?, unchanged]; rfl
  | configured delivered unchanged => rw [renewed?, unchanged, cycle_eq]; rfl
  | refused changed failed => rw [renewed?, changed, failed]; rfl
  | refreshed changed done =>
      rw [renewed?, changed, done, cycle_eq]
      simp only [followFiles]
      split <;> rfl

theorem startWith_eq_some_iff {oracle : Oracle} {options : CycleOptions} {machine : Machine} :
    (startWith refusal? oracle options machine).2 = some (setup, state) ↔
      (start oracle options machine).2 = some (setup, state) ∧ refusal? state.watcher = none := by
  unfold startWith
  obtain ⟨run, began?⟩ := start oracle options machine
  cases began? with
  | none => simp
  | some began =>
      obtain ⟨first_setup, first⟩ := began
      cases answer : refusal? first.watcher with
      | none =>
          simp only [answer, Option.some.injEq, Prod.mk.injEq]
          refine ⟨fun same => ⟨same, ?_⟩, And.left⟩
          rw [← same.2]
          exact answer
      | some reason =>
          simp only [answer, reduceCtorEq, Option.some.injEq, Prod.mk.injEq, false_iff]
          intro accepted
          obtain ⟨⟨-, rfl⟩, accepted⟩ := accepted
          rw [answer] at accepted
          cases accepted

theorem iterateWith_eq_ok_iff {next : State × Reaction} :
    iterateWith refusal? setup batch state = .ok next ↔
      next = iterate setup batch state ∧
        ∀ watcher, renewed? setup batch state = some watcher → refusal? watcher = none := by
  rw [iterateWith]
  cases started : renewed? setup batch state with
  | none => simp [eq_comm]
  | some watcher =>
      cases answer : refusal? watcher with
      | none => simp [answer, eq_comm]
      | some reason => simp [answer]

theorem state_of_iterateWith {next : State} {reaction : Reaction}
    (went : iterateWith refusal? setup batch state = .ok (next, reaction)) :
    next = (iterate setup batch state).1 :=
  congrArg Prod.fst (iterateWith_eq_ok_iff.mp went).1

theorem iterateWith_eq_error_iff :
    iterateWith refusal? setup batch state = .error error ↔
      ∃ watcher reason, renewed? setup batch state = some watcher ∧
        refusal? watcher = some reason ∧ error = .watch reason := by
  rw [iterateWith]
  cases started : renewed? setup batch state with
  | none => simp
  | some watcher =>
      cases answer : refusal? watcher with
      | none => simp [answer]
      | some reason => simp [answer, eq_comm]

theorem reached_of_lasting (lasting : Lasting refusal? setup configuration state) :
    Reached setup configuration state := by
  induction lasting with
  | started read began => exact .started read (startWith_eq_some_iff.mp began).1
  | turned before batch went ih =>
      obtain rfl := state_of_iterateWith went
      exact .turned ih batch
  | disturbed before watcher machine ih => exact .disturbed ih watcher machine

theorem loopWith_append (refusal? : Watcher → Option String) (setup : Setup)
    (first second : List (List WatchEvent)) (state : State) :
    loopWith refusal? setup (first ++ second) state =
      (loopWith refusal? setup first state).bind (loopWith refusal? setup second) := by
  induction first generalizing state with
  | nil => rfl
  | cons batch rest ih =>
      rw [List.cons_append, loopWith, loopWith]
      cases iterateWith refusal? setup batch state with
      | error error => rfl
      | ok next => exact ih next.1

theorem eq_turnAll_of_loopWith (lasted : loopWith refusal? setup batches state = .ok last) :
    last = turnAll setup batches state := by
  induction batches generalizing state with
  | nil => exact (Except.ok.inj lasted).symm
  | cons batch rest ih =>
      rw [loopWith] at lasted
      split at lasted
      · cases lasted
      · next next reaction went =>
          obtain rfl := state_of_iterateWith went
          exact ih lasted

/-- The loop ends in the first turn whose new watcher is refused, with the reason. -/
theorem loopWith_eq_error_iff :
    loopWith refusal? setup batches state = .error error ↔
      ∃ done batch rest watcher reason, batches = done ++ batch :: rest ∧
        loopWith refusal? setup done state = .ok (turnAll setup done state) ∧
        renewed? setup batch (turnAll setup done state) = some watcher ∧
        refusal? watcher = some reason ∧ error = .watch reason := by
  constructor
  · intro ended
    induction batches generalizing state with
    | nil => cases ended
    | cons batch rest ih =>
        rw [loopWith] at ended
        split at ended
        · next ended_here went =>
            cases ended
            obtain ⟨watcher, reason, refused⟩ := iterateWith_eq_error_iff.mp went
            exact ⟨[], batch, rest, watcher, reason, rfl, rfl, refused⟩
        · next next reaction went =>
            obtain ⟨done, later, others, watcher, reason, rfl, lasted, refused⟩ := ih ended
            obtain rfl := state_of_iterateWith went
            refine ⟨batch :: done, later, others, watcher, reason, rfl, ?_, refused⟩
            rw [loopWith, went]
            exact lasted
  · intro first_refused
    obtain ⟨done, batch, rest, watcher, reason, rfl, lasted, refused⟩ := first_refused
    have ended := iterateWith_eq_error_iff.mpr ⟨watcher, reason, refused⟩
    rw [loopWith_append, lasted, Except.bind, loopWith, ended]

/-- A loop that does not end has done what `turnAll` does, and no watcher it started was refused. -/
theorem loopWith_eq_ok_iff :
    loopWith refusal? setup batches state = .ok last ↔
      last = turnAll setup batches state ∧
        ∀ done batch rest, batches = done ++ batch :: rest →
          ∀ watcher, renewed? setup batch (turnAll setup done state) = some watcher →
            refusal? watcher = none := by
  constructor
  · intro lasted
    refine ⟨eq_turnAll_of_loopWith lasted, fun done batch rest split watcher renewed => ?_⟩
    subst split
    rw [loopWith_append] at lasted
    cases began : loopWith refusal? setup done state with
    | error error =>
        rw [began] at lasted
        cases lasted
    | ok reached =>
        rw [began, Except.bind, eq_turnAll_of_loopWith began, loopWith] at lasted
        split at lasted
        · cases lasted
        · next went => exact (iterateWith_eq_ok_iff.mp went).2 watcher renewed
  · intro all_accepted
    obtain ⟨rfl, accepted⟩ := all_accepted
    cases ended : loopWith refusal? setup batches state with
    | ok last => rw [eq_turnAll_of_loopWith ended]
    | error error =>
        obtain ⟨done, batch, rest, watcher, reason, split, -, renewed, refused, -⟩ :=
          loopWith_eq_error_iff.mp ended
        rw [accepted done batch rest split watcher renewed] at refused
        cases refused

/-- The loop never listens to a watcher that was refused. -/
theorem accepted_of_loopWith (accepted : refusal? state.watcher = none)
    (lasted : loopWith refusal? setup batches state = .ok last) :
    refusal? last.watcher = none := by
  induction batches generalizing state with
  | nil =>
      cases lasted
      exact accepted
  | cons batch rest ih =>
      rw [loopWith] at lasted
      split at lasted
      · cases lasted
      · next next reaction went =>
          obtain rfl := state_of_iterateWith went
          apply ih ?_ lasted
          rw [watcher_iterate_eq]
          cases renewed : renewed? setup batch state with
          | none => exact accepted
          | some watcher => exact (iterateWith_eq_ok_iff.mp went).2 watcher renewed

/-- The manifest has come to name another source, and its directory cannot be watched any more. -/
example :
    let refusal (watcher : Watcher) : Option String :=
      if watcher.isShader ⟨"/w/b.glsl"⟩ then some "too many watches" else none
    (iterateWith refusal begun.1 (switched "b.glsl").2 (switched "b.glsl").1).map Prod.snd =
      .error (.watch "too many watches") := by
  decide +kernel

end ShaderVariants.WatchMode
