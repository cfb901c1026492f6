import ShaderVariants.Proofs.Session.Consistency

/-!
Commands that fail change nothing in a session, and a list of commands stops right before the first
that fails.
-/
namespace ShaderVariants.Session

variable {oracle : Oracle} {session middle after : Session} {machine midway last : Machine}
  {command : Command} {commands before rest : List Command} {error : SessionError}

/-- Commands that succeed one after the other, each on what the one before it left. -/
inductive Applied (oracle : Oracle) :
    List Command → Session → Machine → Session → Machine → Prop where
  | nil {session : Session} {machine : Machine} : Applied oracle [] session machine session machine
  | cons {command : Command} {rest : List Command} {session middle after : Session}
      {machine midway last : Machine}
      (first : session.dispatch oracle command machine = ⟨middle, midway, .ok ()⟩)
      (later : Applied oracle rest middle midway after last) :
      Applied oracle (command :: rest) session machine after last

theorem dispatchAll_of_applied (applied : Applied oracle commands session machine after last) :
    session.dispatchAll oracle commands machine = ⟨after, last, .ok ()⟩ := by
  induction applied with
  | nil => rfl
  | cons first later ih =>
      rw [dispatchAll, first]
      exact ih

theorem reachable_of_applied (reachable : Reachable session)
    (applied : Applied oracle commands session machine after last) : Reachable after := by
  induction applied with
  | nil => exact reachable
  | @cons command rest session middle after machine midway last first later ih =>
      have next : Reachable (session.dispatch oracle command machine).session :=
        .perform reachable oracle (.command command) machine
      rw [first] at next
      exact ih next

/-- Either every command succeeds, or those before the one that decides how the list ends. -/
theorem dispatchAll_cases (oracle : Oracle) (commands : List Command) (session : Session)
    (machine : Machine) :
    (∃ after last, Applied oracle commands session machine after last) ∨
    ∃ before command rest middle midway error,
      commands = before ++ command :: rest ∧
      Applied oracle before session machine middle midway ∧
      (middle.dispatch oracle command midway).outcome = .error error ∧
      session.dispatchAll oracle commands machine = middle.dispatch oracle command midway := by
  induction commands generalizing session machine with
  | nil => exact .inl ⟨session, machine, .nil⟩
  | cons command rest ih =>
      cases first : session.dispatch oracle command machine with
      | mk middle midway outcome =>
          cases outcome with
          | error error =>
              refine .inr ⟨[], command, rest, session, machine, error, rfl, .nil, ?_, ?_⟩
              · rw [first]
              · simp only [dispatchAll, first]
          | ok done =>
              rcases ih middle midway with
                ⟨after, last, applied⟩ |
                ⟨before, culprit, others, inner, there, error, parts, applied, failed, ended⟩
              · exact .inl ⟨after, last, .cons first applied⟩
              · refine .inr ⟨command :: before, culprit, others, inner, there, error, ?_,
                  .cons first applied, failed, ?_⟩
                · rw [parts, List.cons_append]
                · simpa only [dispatchAll, first] using ended

theorem session_of_failed (consistent : Consistent session)
    (failed : (session.dispatch oracle command machine).outcome = .error error) :
    (session.dispatch oracle command machine).session = session := by
  have settled := settled_dispatch consistent oracle command machine
  generalize session.dispatch oracle command machine = step at settled failed
  cases settled with
  | failed => rfl
  | done after => cases failed

/-- A failure leaves the session as it was, whichever command fails and for whatever reason.  So a
list of commands either succeeds as a whole or ends with the first failure, and then the session is
the one that the commands before it left. -/
theorem failure_keeps_session (reachable : Reachable session) (oracle : Oracle)
    (machine : Machine) :
    (∀ command error,
      (session.dispatch oracle command machine).outcome = .error error →
        (session.dispatch oracle command machine).session = session) ∧
    ∀ commands,
      (∃ after last, Applied oracle commands session machine after last ∧
        session.dispatchAll oracle commands machine = ⟨after, last, .ok ()⟩) ∨
      ∃ before command rest middle midway error,
        commands = before ++ command :: rest ∧
        Applied oracle before session machine middle midway ∧
        session.dispatchAll oracle before machine = ⟨middle, midway, .ok ()⟩ ∧
        (middle.dispatch oracle command midway).outcome = .error error ∧
        (session.dispatchAll oracle commands machine).outcome = .error error ∧
        (session.dispatchAll oracle commands machine).session = middle := by
  constructor
  · intro command error failed
    exact session_of_failed (consistent_of_reachable reachable) failed
  · intro commands
    rcases dispatchAll_cases oracle commands session machine with
      ⟨after, last, applied⟩ |
      ⟨before, command, rest, middle, midway, error, parts, applied, failed, ended⟩
    · exact .inl ⟨after, last, applied, dispatchAll_of_applied applied⟩
    · have consistent := consistent_of_reachable (reachable_of_applied reachable applied)
      refine .inr ⟨before, command, rest, middle, midway, error, parts, applied,
        dispatchAll_of_applied applied, failed, ?_, ?_⟩
      · rw [ended, failed]
      · rw [ended, session_of_failed consistent failed]

theorem missing_option_keeps_session :
    let shader : Asset := .ofSource "lit" "#pragma multi_compile RED GREEN"
    let commands : List Command := [.selectOption 0 1, .selectOption 0 2, .compile]
    let session :=
      ((Session.new .malioc {}).perform .defines (.selectShader (some shader)) {}).session
    (session.dispatch .defines (.selectOption 0 2) {}).session = session ∧
      ∃ before command rest middle midway error,
        commands = before ++ command :: rest ∧
        Applied .defines before session {} middle midway ∧
        (session.dispatchAll .defines commands {}).outcome = .error error ∧
        (session.dispatchAll .defines commands {}).session = middle := by
  intro shader commands session
  have reachable : Reachable session := .perform (.new _ _) _ _ _
  have keeps := failure_keeps_session reachable .defines {}
  have alone : (session.dispatch .defines (.selectOption 0 2) {}).outcome =
      .error (.selection (.optionOutOfRange 0 2 2)) := by decide +kernel
  have together : (session.dispatchAll .defines commands {}).outcome =
      .error (.selection (.optionOutOfRange 0 2 2)) := by decide +kernel
  refine ⟨keeps.1 _ _ alone, ?_⟩
  rcases keeps.2 commands with ⟨after, last, applied, ended⟩ | stopped
  · rw [ended] at together
    cases together
  · obtain ⟨before, command, rest, middle, midway, error, parts, applied, -, -, failed, kept⟩ :=
      stopped
    exact ⟨before, command, rest, middle, midway, error, parts, applied, failed, kept⟩

end ShaderVariants.Session
