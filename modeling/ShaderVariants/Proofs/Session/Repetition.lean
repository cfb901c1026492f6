import ShaderVariants.Proofs.Session.Rebuilding

/-!
Choices made once more.

Choices read nothing but the passes and the selection (`choose_outfit`), and after the shader is
read again they lead where they led before, also if one of them fails (`choose_restart_again`).
-/
namespace ShaderVariants

namespace Session

variable {session : Session} {oracle : Oracle} {machine : Machine} {commands : List Command}

/-- Commands that do nothing but choose a pass or an option. -/
def IsChoice (command : Command) : Prop :=
  (∃ index, command = .selectPass index) ∨ ∃ group option, command = .selectOption group option

theorem isChoice_of_mem {options : CycleOptions} {command : Command}
    (member : command ∈ options.selectionCommands) : IsChoice command := by
  rcases List.mem_append.mp member with pass | chosen
  · obtain ⟨index, -, same⟩ := Option.map_eq_some_iff.mp (Option.mem_toList.mp pass)
    exact .inl ⟨index, same.symm⟩
  · obtain ⟨⟨group, option⟩, -, same⟩ := List.mem_map.mp chosen
    exact .inr ⟨group, option, same.symm⟩

theorem selectPass_outfit (session : Session) (index : Nat) (compiler : CompilerTarget)
    (settings : VariantSettings) (reports : Reports) :
    ({ session with compiler, settings, reports } : Session).selectPass index =
      ({ (session.selectPass index).1 with compiler, settings, reports },
        (session.selectPass index).2) := by
  unfold selectPass
  dsimp only
  split
  · rfl
  · split <;> rfl

theorem selectOption_outfit (session : Session) (group option : Nat) (compiler : CompilerTarget)
    (settings : VariantSettings) (reports : Reports) :
    ({ session with compiler, settings, reports } : Session).selectOption group option =
      ({ (session.selectOption group option).1 with compiler, settings, reports },
        (session.selectOption group option).2) := by
  have same : ({ session with compiler, settings, reports } : Session).requirePass =
      session.requirePass := rfl
  unfold selectOption
  rw [same]
  split <;> rfl

/-- Choices neither look at the machine nor at how to compile, nor at the reports. -/
theorem dispatchAll_outfit (choices : ∀ command ∈ commands, IsChoice command)
    (session : Session) (compiler : CompilerTarget) (settings : VariantSettings)
    (reports : Reports) (oracle other : Oracle) (machine elsewhere : Machine) :
    ({ session with compiler, settings, reports } : Session).dispatchAll oracle commands machine =
      let step := session.dispatchAll other commands elsewhere
      ⟨{ step.session with compiler, settings, reports }, machine, step.outcome⟩ := by
  induction commands generalizing session with
  | nil => rfl
  | cons command rest ih =>
      rw [List.forall_mem_cons] at choices
      rcases choices.1 with ⟨index, rfl⟩ | ⟨group, option, rfl⟩
      · simp only [dispatchAll, dispatch, selectPass_outfit]
        cases (session.selectPass index).2 with
        | error error => rfl
        | ok done => exact ih choices.2 _
      · simp only [dispatchAll, dispatch, selectOption_outfit]
        cases (session.selectOption group option).2 with
        | error error => rfl
        | ok done => exact ih choices.2 _

/-- The session after the choices of a command line, also if one of them fails. -/
def choose (options : CycleOptions) (session : Session) : Session :=
  (session.dispatchAll .defines options.selectionCommands {}).session

theorem session_dispatchAll (options : CycleOptions) (session : Session) (oracle : Oracle)
    (machine : Machine) :
    (session.dispatchAll oracle options.selectionCommands machine).session =
      session.choose options := by
  have choices : ∀ command ∈ options.selectionCommands, IsChoice command :=
    fun command => isChoice_of_mem
  rw [choose, dispatchAll_outfit choices session session.compiler session.settings session.reports
    oracle .defines machine {}, dispatchAll_outfit choices session session.compiler
    session.settings session.reports .defines .defines {} {}]

theorem choose_outfit (options : CycleOptions) (session : Session) (compiler : CompilerTarget)
    (settings : VariantSettings) (reports : Reports) :
    ({ session with compiler, settings, reports } : Session).choose options =
      { session.choose options with compiler, settings, reports } := by
  have choices : ∀ command ∈ options.selectionCommands, IsChoice command :=
    fun command => isChoice_of_mem
  rw [choose, choose, dispatchAll_outfit choices session compiler settings reports .defines
    .defines {} {}]

/-- A pass that is chosen makes the one before not count. -/
theorem choose_restart_of_found {options : CycleOptions} {shader : Asset} {place : Nat}
    {pass : Pass} (given : options.pass? = some place)
    (found : (indexed (some shader)).1[place]? = some pass) (session : Session) (before : Nat) :
    (session.restart shader before).choose options =
      ((session.restart shader place).dispatchAll .defines
        (options.selections.map fun (group, option) => .selectOption group option) {}).session := by
  have at_place : (session.restart shader before).passes[options.place]? = some pass := by
    rw [CycleOptions.place, given]
    exact found
  have placed : (session.restart shader before).dispatchAll .defines options.selectionCommands {} =
      (session.restart shader options.place).dispatchAll .defines
        (options.selections.map fun (group, option) => .selectOption group option) {} :=
    dispatchAll_place rfl rfl (by simp [given]) at_place
  rw [choose, placed, CycleOptions.place, given]
  rfl

/-- Unless a pass is chosen that the shader has, the one that was active stays. -/
theorem active?_choose_restart {options : CycleOptions} {shader : Asset}
    (unchosen : ∀ place, options.pass? = some place → (indexed (some shader)).1[place]? = none)
    (session : Session) (index : Nat) :
    ((session.restart shader index).choose options).selection.active? =
      (Selection.starting (indexed (some shader)).1 index).active? := by
  cases given : options.pass? with
  | none =>
      obtain ⟨selection, outcome, ended, active⟩ := dispatchAll_selectionCommands_keeps .defines
        (session.restart shader index) {} options
      rw [choose, ended]
      exact active given
  | some place =>
      have beyond : (session.restart shader index).passes.length ≤ place :=
        List.getElem?_eq_none_iff.mp (unchosen place given)
      have selected : (session.restart shader index).shader?.isNone = false := rfl
      have refused : (session.restart shader index).choose options =
          session.restart shader index := by
        simp only [choose, CycleOptions.selectionCommands, given, Option.map_some,
          Option.toList_some, List.cons_append, List.nil_append, dispatchAll, dispatch, selectPass,
          selected, Bool.false_eq_true, if_false, if_pos beyond]
      rw [refused]
      rfl

/-- Reading the shader once more leads to the same choices, with the pass active that they left
active. -/
theorem choose_restart_again (options : CycleOptions) (session : Session) (shader : Asset) :
    let index := session.refreshedIndex shader
    let after := (session.restart shader index).choose options
    (session.restart shader (after.refreshedIndex shader)).choose options = after := by
  intro index after
  by_cases empty : (indexed (some shader)).1 = []
  · have idle (place : Nat) : Selection.starting (indexed (some shader)).1 place = .empty := by
      rw [empty]
      rfl
    simp only [after, restart, idle]
  -- Either the choices leave the active pass alone, or each time they choose the same one.
  · by_cases unchosen : ∀ place, options.pass? = some place →
        (indexed (some shader)).1[place]? = none
    · have started := Selection.active?_starting (indexed (some shader)).1
        (session.selection.active?.getD 0)
      have active := active?_choose_restart unchosen session index
      have same : after.refreshedIndex shader = index := by
        rw [if_neg empty] at started
        rw [refreshedIndex, active]
        unfold index refreshedIndex
        rw [started, Option.getD_some, Nat.min_assoc, Nat.min_self]
      rw [same]
    · push Not at unchosen
      obtain ⟨place, given, present⟩ := unchosen
      obtain ⟨pass, found⟩ := Option.ne_none_iff_exists'.mp present
      rw [choose_restart_of_found given found]
      exact (choose_restart_of_found given found session index).symm

end Session

end ShaderVariants
