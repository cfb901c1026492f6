import ShaderVariants.Proofs.Session.Choices

/-!
A new session, set up for a command line.

`refusal?` is about the first thing asked for that a shader does not have.  A session is set up
exactly when there is none (`outcome_setupCommands`), and then the last option given for a group is
the one that is chosen in it (`choose_zero`).
-/
namespace ShaderVariants

/-- Why an option cannot be chosen in a group of the pass, if it cannot. -/
def Pass.refusal? (pass : Pass) (group option : Nat) : Option SessionError :=
  match pass.groups[group]? with
  | none => some (.selection (.groupOutOfRange group pass.groups.length))
  | some found =>
      if option < found.size then none
      else some (.selection (.optionOutOfRange group option found.size))

theorem Pass.refusal?_eq_none_iff {pass : Pass} {group option : Nat} :
    pass.refusal? group option = none ↔ pass.Offers group option := by
  unfold refusal? Offers
  cases pass.groups[group]? <;> simp

namespace CycleOptions

variable {options : CycleOptions} {passes : List Pass}

/-- Why the passes do not have what is asked for, if they do not.  The pass is looked for first, then
each option, in order, also those that another one replaces later. -/
def refusal? (options : CycleOptions) (passes : List Pass) : Option SessionError :=
  match passes[options.place]? with
  | some pass => options.selections.findSome? fun (group, option) => pass.refusal? group option
  | none =>
      match options.pass? with
      | some index => some (.passOutOfRange index passes.length)
      | none => if options.selections = [] then none else some .noPass

/-- The last option that is given for a group, zero if none is. -/
def choice (options : CycleOptions) (group : Nat) : Nat :=
  ((options.selections.filter fun entry => entry.1 = group).getLast?.map Prod.snd).getD 0

theorem offered_iff {pass : Pass} :
    options.Offered passes pass ↔ passes[options.place]? = some pass ∧
      ∀ entry ∈ options.selections, pass.Offers entry.1 entry.2 :=
  ⟨fun ⟨found, offers⟩ => ⟨found, offers⟩, fun ⟨found, offers⟩ => ⟨found, offers⟩⟩

theorem refusal?_eq_none_iff :
    options.refusal? passes = none ↔
      (options.pass? = none ∧ options.selections = []) ∨ ∃ pass, options.Offered passes pass := by
  unfold refusal?
  cases found : passes[options.place]? with
  | some pass =>
      simp only [List.findSome?_eq_none_iff, Pass.refusal?_eq_none_iff]
      constructor
      · exact fun offers => .inr ⟨pass, found, offers⟩
      · rintro (⟨-, none_given⟩ | ⟨other, same, offers⟩)
        · simp [none_given]
        · cases found.symm.trans same
          exact offers
  | none =>
      have none_offered : ¬ ∃ pass, options.Offered passes pass := by
        rintro ⟨pass, same, -⟩
        cases found.symm.trans same
      cases options.pass? with
      | some index => simp [none_offered]
      | none => simp [none_offered]

end CycleOptions

namespace Selection

variable {choices : List Nat} {chosen : List (Nat × Nat)} {group : Nat}

theorem length_choose (choices : List Nat) (chosen : List (Nat × Nat)) :
    (choose choices chosen).length = choices.length := by
  induction chosen generalizing choices with
  | nil => rfl
  | cons entry rest ih => rw [choose, List.foldl_cons, ← choose, ih, List.length_set]

theorem getElem?_choose (inside : group < choices.length) :
    (choose choices chosen)[group]? =
      some (((chosen.filter fun entry => entry.1 = group).getLast?.map Prod.snd).getD
        choices[group]) := by
  induction chosen generalizing choices with
  | nil => exact List.getElem?_eq_getElem inside
  | cons entry rest ih =>
      have still : group < (choices.set entry.1 entry.2).length := by rwa [List.length_set]
      rw [choose, List.foldl_cons, ← choose, ih still]
      by_cases same : entry.1 = group
      · subst same
        rw [List.filter_cons_of_pos (by simp), List.getLast?_cons, List.getElem_set_self]
        cases (rest.filter fun later => later.1 = entry.1).getLast? <;> rfl
      · rw [List.filter_cons_of_neg (by simpa using same), List.getElem_set_ne same]

theorem choose_zero (options : CycleOptions) (count : Nat) :
    choose (List.replicate count 0) options.selections = (List.range count).map options.choice := by
  apply List.ext_getElem?
  intro group
  by_cases inside : group < count
  · rw [getElem?_choose (by rwa [List.length_replicate]), List.getElem_replicate,
      List.getElem?_map, List.getElem?_range inside]
    rfl
  · rw [List.getElem?_eq_none (by rw [length_choose, List.length_replicate]; omega),
      List.getElem?_eq_none (by rw [List.length_map, List.length_range]; omega)]

end Selection

namespace Session

variable {oracle : Oracle} {session : Session} {machine : Machine} {pass : Pass}
  {options : CycleOptions} {chosen others : List (Nat × Nat)} {shader : Asset}

/-- How commands end that one of them may be refused. -/
def outcomeOf : Option SessionError → Except SessionError Unit
  | some error => .error error
  | none => .ok ()

theorem outcomeOf_eq_ok_iff {refusal? : Option SessionError} :
    outcomeOf refusal? = .ok () ↔ refusal? = none := by
  cases refusal? <;> simp [outcomeOf]

theorem selectOption_eq (required : session.requirePass = .ok pass)
    (fitting : session.selection.fits pass = true) (group option : Nat) :
    session.selectOption group option =
      match pass.refusal? group option with
      | some error => (session, .error error)
      | none =>
          ({ session with
              selection := { session.selection with
                choices := session.selection.choices.set group option } }, .ok ()) := by
  simp only [selectOption, required, Selection.selectOption, Selection.settle_of_fits fitting,
    Pass.refusal?]
  cases pass.groups[group]? with
  | none => rfl
  | some found =>
      dsimp only
      split <;> rfl

theorem outcome_selectOptions (required : session.requirePass = .ok pass)
    (fitting : session.selection.fits pass = true) (chosen : List (Nat × Nat)) :
    (session.dispatchAll oracle (chosen.map fun (group, option) => .selectOption group option)
        machine).outcome =
      outcomeOf (chosen.findSome? fun (group, option) => pass.refusal? group option) := by
  induction chosen generalizing session with
  | nil => rfl
  | cons entry rest ih =>
      have first := selectOption_eq required fitting entry.1 entry.2
      simp only [List.map_cons, dispatchAll, dispatch, List.findSome?_cons]
      cases refused : pass.refusal? entry.1 entry.2 with
      | some error => simp only [first, refused, outcomeOf]
      | none =>
          -- The pass stays the active one, and the choices keep their number.
          simp only [first, refused]
          exact ih required (by simpa [Selection.fits] using fitting)

theorem outcome_selectionCommands {before : Nat} (selected : session.shader?.isSome = true)
    (started : session.selection = .starting session.passes before)
    (first : options.pass? = none → before = 0) :
    (session.dispatchAll oracle options.selectionCommands machine).outcome =
      outcomeOf (options.refusal? session.passes) := by
  unfold CycleOptions.refusal?
  cases found : session.passes[options.place]? with
  | some pass =>
      obtain ⟨required, fitting⟩ := requirePass_place selected found
      rw [dispatchAll_place selected started first found, outcome_selectOptions required fitting]
  | none =>
      have given_shader := Option.isSome_iff_ne_none.mp selected
      unfold CycleOptions.selectionCommands
      unfold CycleOptions.place at found
      cases given : options.pass? with
      | some index =>
          rw [given, Option.getD_some] at found
          have beyond := List.getElem?_eq_none_iff.mp found
          simp [dispatchAll, dispatch, selectPass, Option.isNone_iff_eq_none, given_shader, beyond,
            outcomeOf]
      | none =>
          rw [given, Option.getD_none] at found
          have empty : session.passes = [] := by simpa using found
          cases chosen : options.selections with
          | nil => rfl
          | cons entry rest =>
              have refused : session.requirePass = .error .noPass := by
                simp [requirePass, Option.isNone_iff_eq_none, given_shader, activePass?, empty]
              simp [dispatchAll, dispatch, selectOption, refused, outcomeOf]

/-- The choices of a command line succeed only where everything asked for is offered, or where
nothing is asked for and there is no pass. -/
theorem offered_of_dispatchAll {before : Nat} (selected : session.shader?.isSome = true)
    (started : session.selection = .starting session.passes before)
    (first : options.pass? = none → before = 0)
    (done : (session.dispatchAll oracle options.selectionCommands machine).outcome = .ok ()) :
    (∃ pass, options.Offered session.passes pass) ∨
      session.passes = [] ∧ options.selectionCommands = [] := by
  rw [outcome_selectionCommands selected started first, outcomeOf_eq_ok_iff,
    CycleOptions.refusal?_eq_none_iff] at done
  rcases done with ⟨no_pass, no_selections⟩ | offered
  · cases listed : session.passes with
    | nil => exact .inr ⟨rfl, by simp [CycleOptions.selectionCommands, no_pass, no_selections]⟩
    | cons pass rest =>
        refine .inl ⟨pass, ?_, by simp [no_selections]⟩
        rw [CycleOptions.place, no_pass]
        rfl
  · exact .inl offered

/-- Once its shader is loaded, a session is left with what remains to be chosen. -/
theorem dispatchAll_setupCommands_of_load (oracle : Oracle) (compiler : CompilerTarget)
    (settings : VariantSettings) (loaded : Asset.load machine.files options.shader = .ok shader) :
    (Session.new compiler settings).dispatchAll oracle options.setupCommands machine =
      ((Session.new (options.compiler?.getD compiler) settings).restart shader 0).dispatchAll oracle
        options.selectionCommands machine := by
  unfold CycleOptions.setupCommands
  cases options.compiler? with
  | none =>
      simp only [Option.map_none, Option.toList_none, List.nil_append, dispatchAll, dispatch,
        loaded]
      rw [selectShader_of_none rfl]
      rfl
  | some target =>
      simp only [Option.map_some, Option.toList_some, List.cons_append, List.nil_append,
        dispatchAll, dispatch, loaded]
      rw [selectShader_of_none rfl]
      rfl

theorem outcome_setupCommands (oracle : Oracle) (compiler : CompilerTarget)
    (settings : VariantSettings) (machine : Machine) (options : CycleOptions) :
    ((Session.new compiler settings).dispatchAll oracle options.setupCommands machine).outcome =
      match Asset.load machine.files options.shader with
      | .error error => .error (.asset error)
      | .ok shader => outcomeOf (options.refusal? (indexed (some shader)).1) := by
  cases loaded : Asset.load machine.files options.shader with
  | error error =>
      unfold CycleOptions.setupCommands
      cases options.compiler? <;> simp [dispatchAll, dispatch, loaded]
  | ok shader =>
      rw [dispatchAll_setupCommands_of_load oracle compiler settings loaded]
      exact outcome_selectionCommands rfl rfl fun _ => rfl

/-- What is chosen where nothing is refused: nothing in a shader without passes, and otherwise the
last option that is given for each group of the pass asked for. -/
inductive Chosen (options : CycleOptions) (passes : List Pass) : Selection → Prop where
  | idle (empty : passes = []) : Chosen options passes .empty
  | active {pass : Pass} (found : passes[options.place]? = some pass) :
      Chosen options passes
        ⟨some options.place, (List.range pass.groups.length).map options.choice⟩

theorem setup_succeeds_iff (oracle : Oracle) (compiler : CompilerTarget)
    (settings : VariantSettings) (machine : Machine) (options : CycleOptions) :
    ((Session.new compiler settings).dispatchAll oracle options.setupCommands machine).outcome =
        .ok () ↔
      ∃ shader, Asset.load machine.files options.shader = .ok shader ∧
        (options.pass? = none ∧ options.selections = [] ∨
          ∃ pass, options.Offered (indexed (some shader)).1 pass) := by
  rw [outcome_setupCommands]
  cases Asset.load machine.files options.shader with
  | error error => simp
  | ok shader =>
      simp only [outcomeOf_eq_ok_iff, CycleOptions.refusal?_eq_none_iff, Except.ok.injEq,
        exists_eq_left']

theorem setup_of_ok (oracle : Oracle) (compiler : CompilerTarget) (settings : VariantSettings)
    (done : ((Session.new compiler settings).dispatchAll oracle options.setupCommands
      machine).outcome = .ok ()) :
    ∃ shader selection, Asset.load machine.files options.shader = .ok shader ∧
      Chosen options (indexed (some shader)).1 selection ∧
      (Session.new compiler settings).dispatchAll oracle options.setupCommands machine =
        ⟨{ Session.new (options.compiler?.getD compiler) settings with
            shader? := some shader
            passes := (indexed (some shader)).1
            vocabulary := (indexed (some shader)).2
            selection }, machine, .ok ()⟩ := by
  obtain ⟨shader, loaded, -⟩ := (setup_succeeds_iff ..).mp done
  rw [dispatchAll_setupCommands_of_load oracle compiler settings loaded] at done ⊢
  rcases offered_of_dispatchAll rfl rfl (fun _ => rfl) done with
    ⟨pass, offered⟩ | ⟨empty, nothing_asked⟩
  · refine ⟨shader, options.asked pass, loaded, ?_,
      dispatchAll_of_offered rfl rfl (fun _ => rfl) offered⟩
    rw [CycleOptions.asked, Selection.choose_zero]
    exact .active offered.found
  · refine ⟨shader, .empty, loaded, .idle empty, ?_⟩
    have started : Selection.starting (indexed (some shader)).1 0 = .empty := by
      have none_left : (indexed (some shader)).1 = [] := empty
      rw [none_left]
      rfl
    rw [nothing_asked, dispatchAll, restart, started]

/-- Other options that are the same, and in the same order, group by group. -/
def Reordered (chosen others : List (Nat × Nat)) : Prop :=
  ∀ group, (others.filter fun entry => entry.1 = group) =
    chosen.filter fun entry => entry.1 = group

theorem Reordered.mem_iff (reordered : Reordered chosen others) (entry : Nat × Nat) :
    entry ∈ others ↔ entry ∈ chosen := by
  have same := congrArg (entry ∈ ·) (reordered entry.1)
  simpa using same

theorem Reordered.eq_nil_iff (reordered : Reordered chosen others) : others = [] ↔ chosen = [] := by
  simp only [List.eq_nil_iff_forall_not_mem, reordered.mem_iff]

theorem Chosen.unique {selection other : Selection} {passes : List Pass}
    (reordered : Reordered options.selections others) (chosen : Chosen options passes selection)
    (again : Chosen { options with selections := others } passes other) : other = selection := by
  have choice_eq : CycleOptions.choice { options with selections := others } = options.choice := by
    funext group
    rw [CycleOptions.choice, reordered group, CycleOptions.choice]
  cases chosen with
  | idle empty =>
      cases again with
      | idle => rfl
      | active found => simp [empty] at found
  | @active pass found =>
      cases again with
      | idle empty => simp [empty] at found
      | active also =>
          cases found.symm.trans also
          rw [choice_eq]
          rfl

/-- A new session can be set up for a command line exactly when the shader can be loaded and has
what is asked for, also what is replaced later.  Then the pass asked for is active, the last option
that is given for a group is chosen in it, and the compiler given is the one that is used.  Otherwise
the first command that cannot be carried out tells why.  The order of options matters within a group
only. -/
theorem setup_chooses (oracle : Oracle) (compiler : CompilerTarget) (settings : VariantSettings)
    (machine : Machine) (options : CycleOptions) :
    let step (options : CycleOptions) :=
      (Session.new compiler settings).dispatchAll oracle options.setupCommands machine
    ((step options).outcome = .ok () ↔
      ∃ shader, Asset.load machine.files options.shader = .ok shader ∧
        (options.pass? = none ∧ options.selections = [] ∨
          ∃ pass, options.Offered (indexed (some shader)).1 pass)) ∧
    ((step options).outcome = .ok () →
      ∃ shader selection, Asset.load machine.files options.shader = .ok shader ∧
        Chosen options (indexed (some shader)).1 selection ∧
        step options =
          ⟨{ Session.new (options.compiler?.getD compiler) settings with
              shader? := some shader
              passes := (indexed (some shader)).1
              vocabulary := (indexed (some shader)).2
              selection }, machine, .ok ()⟩) ∧
    ((step options).outcome =
      match Asset.load machine.files options.shader with
      | .error error => .error (.asset error)
      | .ok shader => outcomeOf (options.refusal? (indexed (some shader)).1)) ∧
    ∀ others, Reordered options.selections others →
      ((step { options with selections := others }).outcome = .ok () ↔
        (step options).outcome = .ok ()) ∧
      ((step options).outcome = .ok () →
        step { options with selections := others } = step options) := by
  intro step
  refine ⟨setup_succeeds_iff oracle compiler settings machine options,
    setup_of_ok oracle compiler settings,
    outcome_setupCommands oracle compiler settings machine options, fun others reordered => ?_⟩
  have offered_iff (passes : List Pass) (pass : Pass) :
      CycleOptions.Offered { options with selections := others } passes pass ↔
        options.Offered passes pass := by
    simp only [CycleOptions.offered_iff, reordered.mem_iff, CycleOptions.place]
  have same : (step { options with selections := others }).outcome = .ok () ↔
      (step options).outcome = .ok () := by
    simp only [step, setup_succeeds_iff, offered_iff, reordered.eq_nil_iff]
  refine ⟨same, fun succeeded => ?_⟩
  obtain ⟨shader, selection, loaded, chosen, ended⟩ := setup_of_ok oracle compiler settings succeeded
  obtain ⟨other, also_chosen, also_loaded, again, also_ended⟩ :=
    setup_of_ok oracle compiler settings (same.mpr succeeded)
  cases loaded.symm.trans also_loaded
  rw [chosen.unique reordered again] at also_ended
  exact also_ended.trans ended.symm

theorem setup_chooses_last :
    let source := "#pragma multi_compile A B\n#pragma multi_compile C D E\n"
    let machine : Machine :=
      { files := { nodes := [(["lit.glsl"], .file (Utf8.encode source.toList) none)] } }
    let options : CycleOptions :=
      { shader := ⟨"lit.glsl"⟩, selections := [(1, 2), (0, 1), (1, 0)], compiler? := some .malisc }
    let step (options : CycleOptions) :=
      (Session.new .malioc {}).dispatchAll .defines options.setupCommands machine
    (∃ shader, Asset.load machine.files options.shader = .ok shader ∧
      Chosen options (indexed (some shader)).1 (step options).session.selection) ∧
      (step options).session.selection = ⟨some 0, [1, 0]⟩ ∧
      (step options).session.compiler = .malisc ∧
      step { options with selections := [(0, 1), (1, 2), (1, 0)] } = step options ∧
      (step { options with selections := [(1, 3), (0, 1), (1, 0), (2, 0)] }).outcome =
        .error (.selection (.optionOutOfRange 1 3 3)) := by
  intro source machine options step
  obtain ⟨-, chooses, -, reorders⟩ := setup_chooses .defines .malioc {} machine options
  have succeeded : (step options).outcome = .ok () := by decide +kernel
  have reordered : Reordered options.selections [(0, 1), (1, 2), (1, 0)] := by
    intro group
    match group with
    | 0 | 1 | _ + 2 => rfl
  obtain ⟨shader, selection, loaded, chosen, ended⟩ := chooses succeeded
  have session_eq := congrArg Step.session ended
  have selection_eq : (step options).session.selection = selection :=
    congrArg Session.selection session_eq
  exact ⟨⟨shader, loaded, selection_eq ▸ chosen⟩, by decide +kernel,
    congrArg Session.compiler session_eq, (reorders _ reordered).2 succeeded, by decide +kernel⟩

end Session

end ShaderVariants
