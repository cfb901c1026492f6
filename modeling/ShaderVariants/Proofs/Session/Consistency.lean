import ShaderVariants.Command
import ShaderVariants.Proofs.Pass
import ShaderVariants.Proofs.Selection

/-!
What holds of every session, whatever was done to it.

`Reachable` are the sessions that operations can lead to from a new one; before each of them the
machine may have become any other.  An operation that fails leaves the session as it was, and one
that succeeds keeps it `Consistent`.
-/
namespace ShaderVariants

/-- What can be done to a session: any command, and what its host can do without one. -/
inductive Operation where
  | command (command : Command)
  | selectShader (shader? : Option Asset)
  | setSettings (settings : VariantSettings)

namespace Session

variable {oracle : Oracle} {session : Session} {machine : Machine} {pass : Pass}

def perform (oracle : Oracle) (operation : Operation) (session : Session) (machine : Machine) :
    Step :=
  match operation with
  | .command command => session.dispatch oracle command machine
  | .selectShader shader? => ⟨(session.selectShader shader?).1, machine, .ok ()⟩
  | .setSettings settings => ⟨session.setSettings settings, machine, .ok ()⟩

/-- The sessions that operations lead to, each with an oracle and a machine of its own. -/
inductive Reachable : Session → Prop where
  | new (compiler : CompilerTarget) (settings : VariantSettings) :
      Reachable (.new compiler settings)
  | perform {session : Session} (before : Reachable session) (oracle : Oracle)
      (operation : Operation) (machine : Machine) :
      Reachable (session.perform oracle operation machine).session

/-- The passes and the keywords that a shader, or none, has. -/
def indexed : Option Asset → List Pass × Keyword.Vocabulary
  | none => ([], .empty)
  | some shader => Pass.ofAsset shader .empty

/-- Everything a session keeps belongs to its shader. -/
structure Consistent (session : Session) : Prop where
  indexed_eq : (session.passes, session.vocabulary) = indexed session.shader?
  suits : Selection.Suits session.passes session.selection
  quiet : session.shader? = none → session.reports = .empty

/-- What a step can come to: it fails and leaves the session as it was, or it succeeds and leaves a
consistent one. -/
inductive Settled (session : Session) : Step → Prop where
  | failed {machine : Machine} {error : SessionError}
      (noPass : error = .noPass → session.requirePass = .error .noPass) :
      Settled session ⟨session, machine, .error error⟩
  | done {after : Session} {machine : Machine} (consistent : Consistent after) :
      Settled session ⟨after, machine, .ok ()⟩

theorem withShader_eq (session : Session) (shader? : Option Asset) :
    session.withShader shader? =
      { session with
        shader?, passes := (indexed shader?).1, vocabulary := (indexed shader?).2 } := by
  cases shader? <;> rfl

theorem consistent_new (compiler : CompilerTarget) (settings : VariantSettings) :
    Consistent (.new compiler settings) :=
  ⟨rfl, .idle rfl, fun _ => rfl⟩

/-- Nothing of an earlier shader is left, and the first pass is active. -/
theorem consistent_selectShader (consistent : Consistent session) (shader? : Option Asset) :
    Consistent (session.selectShader shader?).1 := by
  unfold selectShader
  split
  · exact consistent
  · simp only [withShader_eq]
    split
    · next none_left => exact ⟨rfl, .idle (List.isEmpty_iff.mp none_left), fun _ => rfl⟩
    · next some_left =>
        exact ⟨rfl, Selection.suits_forced some_left (Nat.zero_le _), fun _ => rfl⟩

theorem requirePass_eq (selected : session.shader?.isSome = true)
    (active : session.activePass? = some pass) : session.requirePass = .ok pass := by
  rw [requirePass, if_neg (by simpa [Option.isSome_iff_ne_none] using selected), active]

theorem requirePass_ok (required : session.requirePass = .ok pass) :
    session.shader? ≠ none ∧
      ∃ index, session.selection.active? = some index ∧ session.passes[index]? = some pass := by
  unfold requirePass at required
  split at required
  · cases required
  · next selected =>
      split at required
      · next found =>
          cases required
          exact ⟨by simpa using selected, Option.bind_eq_some_iff.mp found⟩
      · cases required

theorem requirePass_of_active (consistent : Consistent session)
    (active : session.activePass? = some pass) : session.requirePass = .ok pass := by
  refine requirePass_eq ?_ active
  cases selected : session.shader? with
  | some shader => rfl
  | none =>
      have indexed_eq := consistent.indexed_eq
      rw [selected] at indexed_eq
      have empty : session.passes = [] := congrArg Prod.fst indexed_eq
      obtain ⟨index, -, found⟩ := Option.bind_eq_some_iff.mp active
      simp [empty] at found

theorem inRange_of_active (consistent : Consistent session)
    (active : session.activePass? = some pass) :
    Selection.InRange session.selection.choices pass.groups := by
  obtain ⟨index, at_index, found⟩ := Option.bind_eq_some_iff.mp active
  exact Selection.inRange_of_suits consistent.suits at_index found

theorem settled_refresh (session : Session) (machine : Machine) :
    Settled session ⟨(session.refresh machine.files).1, machine,
      (session.refresh machine.files).2⟩ := by
  unfold refresh
  split
  · exact .failed (by simp)
  · split
    · exact .failed (by simp)
    · next reloaded looked =>
        simp only [withShader_eq]
        refine .done ⟨rfl, ?_, by simp⟩
        split
        · next none_left => exact .idle (List.isEmpty_iff.mp none_left)
        · next some_left =>
            -- Forced, since the choices were made for passes that may be gone.
            exact Selection.suits_forced some_left (Nat.min_le_right _ _)

theorem settled_selectPass (consistent : Consistent session) (machine : Machine) (index : Nat) :
    Settled session ⟨(session.selectPass index).1, machine, (session.selectPass index).2⟩ := by
  unfold selectPass
  split
  · exact .failed (by simp)
  · split
    · exact .failed (by simp)
    · next below =>
        have found := List.getElem?_eq_getElem (Nat.lt_of_not_le below)
        exact .done ⟨consistent.indexed_eq,
          Selection.suits_selectPass found (.inr consistent.suits), consistent.quiet⟩

theorem settled_selectOption (consistent : Consistent session) (machine : Machine)
    (group option : Nat) :
    Settled session ⟨(session.selectOption group option).1, machine,
      (session.selectOption group option).2⟩ := by
  unfold selectOption
  cases required : session.requirePass with
  | error error => exact .failed (by simp [required])
  | ok pass =>
      obtain ⟨-, index, active, found⟩ := requirePass_ok required
      have suits := Selection.suits_selectOption consistent.suits active found group option
      simp only
      rcases Selection.selectOption_cases consistent.suits active found group option with
        ⟨chosen, at_group, below, done⟩ | ⟨error, failed⟩
      · rw [done] at suits ⊢
        exact .done ⟨consistent.indexed_eq, suits, consistent.quiet⟩
      · rw [failed]
        exact .failed (by simp)

theorem settled_compile (consistent : Consistent session) (oracle : Oracle) (machine : Machine) :
    Settled session (session.compile oracle machine) := by
  unfold compile
  cases required : session.requirePass with
  | error error => exact .failed (by simp [required])
  | ok pass =>
      obtain ⟨selected, index, active, found⟩ := requirePass_ok required
      -- The choices are not started over, so a variant that cannot be made leaves nothing to undo.
      simp only [Selection.settle_of_suits consistent.suits active found]
      split
      · exact .done ⟨consistent.indexed_eq, consistent.suits, fun _ => rfl⟩
      · split
        · exact .failed (by simp)
        · split
          · exact .failed (by simp)
          · exact .done ⟨consistent.indexed_eq, consistent.suits,
              fun deselected => absurd deselected selected⟩

theorem settled_dispatch (consistent : Consistent session) (oracle : Oracle) (command : Command)
    (machine : Machine) : Settled session (session.dispatch oracle command machine) := by
  cases command with
  | selectShader path =>
      unfold dispatch
      cases looked : Asset.load machine.files path with
      | error error =>
          simp only [looked]
          exact .failed (by simp)
      | ok shader =>
          simp only [looked]
          exact .done (consistent_selectShader consistent (some shader))
  | deselect => exact .done (consistent_selectShader consistent none)
  | refresh => exact settled_refresh session machine
  | selectPass index => exact settled_selectPass consistent machine index
  | selectOption group option => exact settled_selectOption consistent machine group option
  | compile => exact settled_compile consistent oracle machine
  | clearReports => exact .done ⟨consistent.indexed_eq, consistent.suits, fun _ => rfl⟩
  | setCompiler compiler =>
      exact .done ⟨consistent.indexed_eq, consistent.suits, consistent.quiet⟩

theorem settled_perform (consistent : Consistent session) (oracle : Oracle)
    (operation : Operation) (machine : Machine) :
    Settled session (session.perform oracle operation machine) := by
  cases operation with
  | command command => exact settled_dispatch consistent oracle command machine
  | selectShader shader? => exact .done (consistent_selectShader consistent shader?)
  | setSettings settings =>
      exact .done ⟨consistent.indexed_eq, consistent.suits, consistent.quiet⟩

/-- There is a pass to work on unless there is no shader, or one without passes. -/
theorem requirePass_noPass (consistent : Consistent session)
    (refused : session.requirePass = .error .noPass) :
    ∃ shader, session.shader? = some shader ∧ shader.passes = [] := by
  have indexed_eq := consistent.indexed_eq
  unfold requirePass at refused
  cases selected : session.shader? with
  | none => simp [selected] at refused
  | some shader =>
      rw [selected] at indexed_eq
      have empty : session.passes = [] := by
        refine Decidable.byContradiction fun nonempty => ?_
        obtain ⟨index, pass, active, found⟩ := Selection.exists_active consistent.suits nonempty
        simp [selected, activePass?, active, found] at refused
      have none_built : (Pass.ofAsset shader .empty).1 = [] := by
        rw [← empty]
        exact (congrArg Prod.fst indexed_eq).symm
      exact ⟨shader, rfl, (Pass.ofAsset_eq_nil_iff shader .empty).mp none_built⟩

theorem consistent_of_reachable (reachable : Reachable session) : Consistent session := by
  induction reachable with
  | new compiler settings => exact consistent_new compiler settings
  | @perform session before oracle operation machine consistent =>
      have settled := settled_perform consistent oracle operation machine
      generalize session.perform oracle operation machine = step at settled
      cases settled with
      | failed => exact consistent
      | done after => exact after

/-- Whatever was done to a session, and whatever failed on the way, all it keeps belongs to its
shader, so that choices never have to start over before they are used. -/
theorem reachable_belongs_to_shader (reachable : Reachable session) :
    (session.passes, session.vocabulary) = indexed session.shader? ∧
    (session.selection.active?.isSome ↔ session.passes ≠ []) ∧
    (∀ index, session.selection.active? = some index → index < session.passes.length) ∧
    (∀ pass, session.activePass? = some pass →
      Selection.InRange session.selection.choices pass.groups) ∧
    (session.selection.active? = none → session.selection.choices = []) ∧
    (session.shader? = none → session.reports = .empty) ∧
    (∀ pass, session.requirePass = .ok pass → session.selection.settle pass = session.selection) ∧
    ∀ oracle operation machine,
      (session.perform oracle operation machine).outcome = .error .noPass →
        ∃ shader, session.shader? = some shader ∧ shader.passes = [] := by
  have consistent := consistent_of_reachable reachable
  refine ⟨consistent.indexed_eq, ⟨?_, ?_⟩, ?_, ?_, ?_, consistent.quiet, ?_, ?_⟩
  · intro some_active empty
    obtain ⟨index, active⟩ := Option.isSome_iff_exists.mp some_active
    obtain ⟨pass, found⟩ := Selection.exists_pass consistent.suits active
    simp [empty] at found
  · intro nonempty
    obtain ⟨index, pass, active, found⟩ := Selection.exists_active consistent.suits nonempty
    simp [active]
  · intro index active
    obtain ⟨pass, found⟩ := Selection.exists_pass consistent.suits active
    exact (List.getElem?_eq_some_iff.mp found).1
  · exact fun pass => inRange_of_active consistent
  · intro idle
    exact Selection.choices_of_idle consistent.suits idle
  · intro pass required
    obtain ⟨-, index, active, found⟩ := requirePass_ok required
    exact Selection.settle_of_suits consistent.suits active found
  · intro oracle operation machine refused
    have settled := settled_perform consistent oracle operation machine
    generalize session.perform oracle operation machine = step at settled refused
    cases settled with
    | failed noPass =>
        cases refused
        exact requirePass_noPass consistent (noPass rfl)
    | done after => cases refused

theorem chosen_option_belongs_to_shader :
    let shader : Asset := .ofSource "lit" "#pragma multi_compile RED GREEN"
    let selected := (Session.new .malioc {}).perform .defines (.selectShader (some shader)) {}
    let session := (selected.session.perform .defines (.command (.selectOption 0 1)) {}).session
    session.selection = ⟨some 0, [1]⟩ ∧
      (session.passes, session.vocabulary) = Pass.ofAsset shader .empty ∧
      ∃ pass, session.requirePass = .ok pass ∧
        Selection.InRange session.selection.choices pass.groups ∧
        session.selection.settle pass = session.selection := by
  intro shader selected session
  have reachable : Reachable session := .perform (.perform (.new _ _) _ _ _) _ _ _
  have belongs := reachable_belongs_to_shader reachable
  have required : session.requirePass.isOk = true := by decide +kernel
  refine ⟨by decide +kernel, belongs.1, ?_⟩
  cases looked : session.requirePass with
  | error error => simp [looked, Except.isOk, Except.toBool] at required
  | ok pass =>
      obtain ⟨-, index, active, found⟩ := requirePass_ok looked
      have active_pass : session.activePass? = some pass := by
        simp [activePass?, active, found]
      exact ⟨pass, rfl, belongs.2.2.2.1 pass active_pass, belongs.2.2.2.2.2.2.1 pass looked⟩

end Session

end ShaderVariants
