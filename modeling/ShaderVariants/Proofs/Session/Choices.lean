import ShaderVariants.CommandLine
import ShaderVariants.Proofs.Session.Consistency

/-!
The choices of a command line, made in a session.

They are made on a selection that has just started over, with every choice at zero.  Either the
shader offers all of them, and then the selection is the one asked for, whichever pass was active
before; or one of the commands fails.
-/
namespace ShaderVariants

def Pass.Offers (pass : Pass) (group option : Nat) : Prop :=
  ∃ found, pass.groups[group]? = some found ∧ option < found.size

namespace Selection

variable {passes : List Pass} {pass : Pass} {index : Nat}

/-- The selection that makes a pass active and starts over. -/
def starting (passes : List Pass) (index : Nat) : Selection :=
  match passes[index]? with
  | none => empty
  | some pass => ⟨some index, List.replicate pass.groups.length 0⟩

/-- Choices after further ones; the last one of a group counts. -/
def choose (choices : List Nat) (chosen : List (Nat × Nat)) : List Nat :=
  chosen.foldl (fun choices entry => choices.set entry.1 entry.2) choices

theorem starting_of_found (found : passes[index]? = some pass) :
    starting passes index = ⟨some index, List.replicate pass.groups.length 0⟩ := by
  rw [starting, found]

theorem selectPass_forced (selection : Selection) (index : Nat) (passes : List Pass) :
    selection.selectPass index passes true = starting passes index := by
  unfold selectPass starting
  cases passes[index]? <;> rfl

/-- Where every choice is zero, choosing a pass leaves every choice zero. -/
theorem selectPass_starting (found : passes[index]? = some pass) (before : Nat) :
    (starting passes before).selectPass index passes false = starting passes index := by
  rw [starting_of_found found]
  simp only [selectPass, found]
  split
  · rfl
  · next kept =>
      simp only [Bool.false_or, Bool.or_eq_true, not_or, decide_eq_true_eq, Decidable.not_not]
        at kept
      have same : before = index := by
        have active := kept.1
        unfold starting at active
        split at active
        · cases active
        · exact Option.some.inj active
      rw [same, starting_of_found found]

end Selection

namespace CycleOptions

/-- The pass that is asked for: the first one if none is given. -/
def place (options : CycleOptions) : Nat :=
  options.pass?.getD 0

/-- The selection that is asked for: zero in every group but for the options given, in order. -/
def asked (options : CycleOptions) (pass : Pass) : Selection :=
  ⟨some options.place,
    Selection.choose (List.replicate pass.groups.length 0) options.selections⟩

/-- Passes that have what is asked for: `pass` at its place, with every option given, also those
that another one replaces later. -/
structure Offered (options : CycleOptions) (passes : List Pass) (pass : Pass) : Prop where
  found : passes[options.place]? = some pass
  offers : ∀ entry ∈ options.selections, pass.Offers entry.1 entry.2

end CycleOptions

namespace Session

variable {oracle : Oracle} {session : Session} {machine : Machine} {pass : Pass}
  {options : CycleOptions} {chosen : List (Nat × Nat)} {group option : Nat}

/-- A shader read anew, with the pass at `index` active and nothing chosen yet. -/
def restart (session : Session) (shader : Asset) (index : Nat) : Session :=
  { session with
    shader? := some shader
    passes := (indexed (some shader)).1
    vocabulary := (indexed (some shader)).2
    selection := .starting (indexed (some shader)).1 index }

/-- Nothing of the shader before is left. -/
theorem selectShader_of_other {shader : Asset} (other : session.hasShader (some shader) = false) :
    session.selectShader (some shader) =
      (({ session with reports := .empty } : Session).restart shader 0, true) := by
  rw [selectShader, if_neg (by simp [other])]
  simp only [withShader_eq, restart, Selection.selectPass_forced]
  split
  · next empty => rw [List.isEmpty_iff.mp empty]; rfl
  · rfl

theorem selectShader_of_none (unselected : session.shader? = none) (shader : Asset) :
    session.selectShader (some shader) =
      (({ session with reports := .empty } : Session).restart shader 0, true) :=
  selectShader_of_other (by simp only [hasShader, unselected])

/-- The pass that a refresh makes active: the one that was, or the last one if there are fewer
now. -/
def refreshedIndex (session : Session) (shader : Asset) : Nat :=
  min (session.selection.active?.getD 0) ((indexed (some shader)).1.length - 1)

theorem refresh_of_reload {shader reloaded : Asset} {files : FileSystem}
    (selected : session.shader? = some shader) (read : shader.reload files = .ok reloaded) :
    session.refresh files =
      (session.restart reloaded (session.refreshedIndex reloaded), .ok ()) := by
  simp only [refresh, selected, read, withShader_eq, restart, Selection.selectPass_forced,
    refreshedIndex]
  split
  · next empty => rw [List.isEmpty_iff.mp empty]; rfl
  · rfl

/-- A refresh that succeeds has read the shader again; one that fails changes nothing. -/
theorem refresh_cases (session : Session) (files : FileSystem) :
    (∃ error, session.refresh files = (session, .error error)) ∨
    ∃ shader reloaded, session.shader? = some shader ∧ shader.reload files = .ok reloaded ∧
      session.refresh files =
        (session.restart reloaded (session.refreshedIndex reloaded), .ok ()) := by
  cases selected : session.shader? with
  | none => exact .inl ⟨.noShader, by simp only [refresh, selected]⟩
  | some shader =>
      cases read : shader.reload files with
      | error error => exact .inl ⟨.asset error, by simp only [refresh, selected, read]⟩
      | ok reloaded => exact .inr ⟨shader, reloaded, rfl, read, refresh_of_reload selected read⟩

theorem selectOption_of_offers (required : session.requirePass = .ok pass)
    (fitting : session.selection.fits pass = true) (offers : pass.Offers group option) :
    session.selectOption group option =
      ({ session with
          selection := { session.selection with
            choices := session.selection.choices.set group option } }, .ok ()) := by
  obtain ⟨found, at_group, below⟩ := offers
  simp only [selectOption, required, Selection.selectOption, Selection.settle_of_fits fitting,
    at_group, if_pos below]
  rfl

theorem offers_of_selectOption (required : session.requirePass = .ok pass)
    (done : (session.selectOption group option).2 = .ok ()) : pass.Offers group option := by
  simp only [selectOption, required, Selection.selectOption] at done
  cases at_group : pass.groups[group]? with
  | none => simp [at_group, Except.mapError] at done
  | some found =>
      by_cases below : option < found.size
      · exact ⟨found, at_group, below⟩
      · simp [at_group, below, Except.mapError] at done

theorem dispatchAll_of_offers (required : session.requirePass = .ok pass)
    (fitting : session.selection.fits pass = true)
    (offers : ∀ entry ∈ chosen, pass.Offers entry.1 entry.2) :
    session.dispatchAll oracle (chosen.map fun (group, option) => .selectOption group option)
        machine =
      ⟨{ session with
          selection := { session.selection with
            choices := Selection.choose session.selection.choices chosen } }, machine, .ok ()⟩ := by
  induction chosen generalizing session with
  | nil => rfl
  | cons entry rest ih =>
      rw [List.forall_mem_cons] at offers
      have first := selectOption_of_offers required fitting offers.1
      simp only [List.map_cons, dispatchAll, dispatch, first]
      exact ih required (by simpa [Selection.fits] using fitting) offers.2

theorem selectPass_of_listed {index : Nat} (selected : session.shader?.isSome = true)
    (found : session.passes[index]? = some pass) :
    session.selectPass index =
      ({ session with selection := session.selection.selectPass index session.passes false },
        .ok ()) := by
  have below : index < session.passes.length := (List.getElem?_eq_some_iff.mp found).1
  rw [selectPass, if_neg (by simpa [Option.isSome_iff_ne_none] using selected),
    if_neg (by omega)]

theorem selectPass_of_found {index before : Nat} (selected : session.shader?.isSome = true)
    (started : session.selection = .starting session.passes before)
    (found : session.passes[index]? = some pass) :
    session.selectPass index =
      ({ session with selection := .starting session.passes index }, .ok ()) := by
  rw [selectPass_of_listed selected found, started, Selection.selectPass_starting found]

/-- The pass asked for is active before any option is chosen. -/
theorem dispatchAll_place {before : Nat} (selected : session.shader?.isSome = true)
    (started : session.selection = .starting session.passes before)
    (first : options.pass? = none → before = 0)
    (found : session.passes[options.place]? = some pass) :
    session.dispatchAll oracle options.selectionCommands machine =
      ({ session with selection := .starting session.passes options.place } : Session).dispatchAll
        oracle (options.selections.map fun (group, option) => .selectOption group option)
        machine := by
  unfold CycleOptions.selectionCommands
  unfold CycleOptions.place at found ⊢
  cases given : options.pass? with
  | none =>
      rw [first given] at started
      rw [Option.getD_none, ← started]
      rfl
  | some index =>
      rw [given, Option.getD_some] at found
      simp only [Option.map_some, Option.toList_some, List.cons_append, List.nil_append,
        Option.getD_some, dispatchAll, dispatch, selectPass_of_found selected started found]

theorem requirePass_place (selected : session.shader?.isSome = true)
    (found : session.passes[options.place]? = some pass) :
    ({ session with selection := .starting session.passes options.place } : Session).requirePass =
        .ok pass ∧
      (Selection.starting session.passes options.place).fits pass = true := by
  rw [Selection.starting_of_found found]
  refine ⟨requirePass_eq selected ?_, by simp [Selection.fits]⟩
  simpa [activePass?] using found

/-- Where everything asked for is offered, the selection becomes the one asked for, whichever pass
was the active one. -/
theorem dispatchAll_of_offered {before : Nat} (selected : session.shader?.isSome = true)
    (started : session.selection = .starting session.passes before)
    (first : options.pass? = none → before = 0)
    (offered : options.Offered session.passes pass) :
    session.dispatchAll oracle options.selectionCommands machine =
      ⟨{ session with selection := options.asked pass }, machine, .ok ()⟩ := by
  obtain ⟨required, fitting⟩ := requirePass_place selected offered.found
  rw [dispatchAll_place selected started first offered.found,
    dispatchAll_of_offers required fitting offered.offers, CycleOptions.asked,
    Selection.starting_of_found offered.found]

theorem selectPass_keeps (session : Session) (index : Nat) :
    ∃ selection, (session.selectPass index).1 = { session with selection } := by
  unfold selectPass
  split
  · exact ⟨_, rfl⟩
  · split
    · exact ⟨_, rfl⟩
    · exact ⟨_, rfl⟩

theorem selectOption_keeps (session : Session) (group option : Nat) :
    ∃ selection, (session.selectOption group option).1 = { session with selection } ∧
      selection.active? = session.selection.active? := by
  unfold selectOption
  split
  · exact ⟨_, rfl, rfl⟩
  · next pass required =>
      refine ⟨_, rfl, ?_⟩
      unfold Selection.selectOption
      cases pass.groups[group]? with
      | none => exact Selection.active?_settle _ _
      | some found =>
          dsimp only
          split
          · exact Selection.active?_settle _ _
          · exact Selection.active?_settle _ _

theorem dispatchAll_options_keeps (oracle : Oracle) (session : Session) (machine : Machine)
    (chosen : List (Nat × Nat)) :
    ∃ selection outcome,
      session.dispatchAll oracle (chosen.map fun (group, option) => .selectOption group option)
          machine = ⟨{ session with selection }, machine, outcome⟩ ∧
        selection.active? = session.selection.active? := by
  induction chosen generalizing session with
  | nil => exact ⟨_, _, rfl, rfl⟩
  | cons entry rest ih =>
      obtain ⟨selection, kept, active⟩ := selectOption_keeps session entry.1 entry.2
      simp only [List.map_cons, dispatchAll, dispatch, kept]
      cases (session.selectOption entry.1 entry.2).2 with
      | error error => exact ⟨_, _, rfl, active⟩
      | ok done =>
          obtain ⟨later, outcome, ended, same⟩ := ih { session with selection }
          exact ⟨later, outcome, ended, same.trans active⟩

/-- The choices of a command line change nothing but the selection, also when one of them fails;
without a pass among them the active one stays. -/
theorem dispatchAll_selectionCommands_keeps (oracle : Oracle) (session : Session)
    (machine : Machine) (options : CycleOptions) :
    ∃ selection outcome,
      session.dispatchAll oracle options.selectionCommands machine =
        ⟨{ session with selection }, machine, outcome⟩ ∧
      (options.pass? = none → selection.active? = session.selection.active?) := by
  unfold CycleOptions.selectionCommands
  cases options.pass? with
  | none =>
      obtain ⟨selection, outcome, ended, same⟩ :=
        dispatchAll_options_keeps oracle session machine options.selections
      exact ⟨selection, outcome, ended, fun _ => same⟩
  | some index =>
      obtain ⟨selection, kept⟩ := selectPass_keeps session index
      simp only [Option.map_some, Option.toList_some, List.cons_append, List.nil_append,
        dispatchAll, dispatch, kept, reduceCtorEq, false_implies, and_true]
      cases (session.selectPass index).2 with
      | error error => exact ⟨_, _, rfl⟩
      | ok done =>
          obtain ⟨later, outcome, ended, -⟩ :=
            dispatchAll_options_keeps oracle { session with selection } machine options.selections
          exact ⟨later, outcome, ended⟩

theorem consistent_dispatchAll (consistent : Consistent session) (oracle : Oracle)
    (commands : List Command) (machine : Machine) :
    Consistent (session.dispatchAll oracle commands machine).session := by
  induction commands generalizing session machine with
  | nil => exact consistent
  | cons command rest ih =>
      have settled := settled_dispatch consistent oracle command machine
      rw [dispatchAll]
      generalize session.dispatch oracle command machine = step at settled
      cases settled with
      | failed => exact consistent
      | done after => exact ih after _

end Session

end ShaderVariants
