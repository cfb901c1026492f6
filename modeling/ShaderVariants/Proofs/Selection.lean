import Mathlib.Data.List.Forall2
import ShaderVariants.Selection

/-!
Selections that fit a list of passes.

Every operation of a selection either starts over at zero, which is in range because no group is
empty, or changes one choice to an option that exists.
-/
namespace ShaderVariants.Selection

variable {selection : Selection} {passes : List Pass} {pass : Pass} {index : Nat}

/-- One choice for each group, among the options of that group. -/
def InRange (choices : List Nat) (groups : List Keyword.Group) : Prop :=
  List.Forall₂ (fun choice group => choice < group.size) choices groups

/-- A pass of the list is active and its choices are in range; none is if the list is empty. -/
inductive Suits (passes : List Pass) : Selection → Prop where
  | idle (empty : passes = []) : Suits passes Selection.empty
  | active {index : Nat} {pass : Pass} {choices : List Nat} (found : passes[index]? = some pass)
      (inRange : InRange choices pass.groups) : Suits passes ⟨some index, choices⟩

theorem size_pos (group : Keyword.Group) : 0 < group.size :=
  List.length_pos_iff.mpr group.nonempty

theorem inRange_zero (groups : List Keyword.Group) :
    InRange (List.replicate groups.length 0) groups := by
  induction groups with
  | nil => exact .nil
  | cons group rest ih => exact .cons (size_pos group) ih

theorem fits_of_inRange (inRange : InRange selection.choices pass.groups) :
    selection.fits pass = true := by
  simpa [fits] using inRange.length_eq

theorem inRange_set {choices : List Nat} {groups : List Keyword.Group} {found : Keyword.Group}
    {group option : Nat} (inRange : InRange choices groups) (at_group : groups[group]? = some found)
    (below : option < found.size) : InRange (choices.set group option) groups := by
  induction inRange generalizing group with
  | nil => simp at at_group
  | @cons choice first choices groups here rest ih =>
      cases group with
      | zero =>
          have same : first = found := by simpa using at_group
          exact .cons (same ▸ below) rest
      | succ group => exact .cons here (ih (by simpa using at_group))

theorem inRange_of_suits (suits : Suits passes selection) (active : selection.active? = some index)
    (found : passes[index]? = some pass) : InRange selection.choices pass.groups := by
  cases suits with
  | idle empty => cases active
  | active other inRange =>
      cases active
      rw [found] at other
      cases other
      exact inRange

theorem exists_active (suits : Suits passes selection) (nonempty : passes ≠ []) :
    ∃ index pass, selection.active? = some index ∧ passes[index]? = some pass := by
  cases suits with
  | idle empty => exact absurd empty nonempty
  | active found inRange => exact ⟨_, _, rfl, found⟩

theorem exists_pass (suits : Suits passes selection) (active : selection.active? = some index) :
    ∃ pass, passes[index]? = some pass := by
  cases suits with
  | idle empty => cases active
  | active found inRange =>
      cases active
      exact ⟨_, found⟩

theorem choices_of_idle (suits : Suits passes selection) (idle : selection.active? = none) :
    selection.choices = [] := by
  cases suits with
  | idle empty => rfl
  | active found inRange => cases idle

/-- Choices that suit a pass are never started over because of their number. -/
theorem settle_of_suits (suits : Suits passes selection) (active : selection.active? = some index)
    (found : passes[index]? = some pass) : selection.settle pass = selection :=
  settle_of_fits (fits_of_inRange (inRange_of_suits suits active found))

theorem suits_selectPass (found : passes[index]? = some pass) {force : Bool}
    (settled : force = true ∨ Suits passes selection) :
    Suits passes (selection.selectPass index passes force) := by
  simp only [selectPass, found]
  split
  · exact .active found (inRange_zero pass.groups)
  · next kept =>
      simp only [Bool.or_eq_true, not_or, Bool.not_eq_true, decide_eq_false_iff_not,
        Decidable.not_not] at kept
      obtain ⟨⟨notForced, active⟩, _⟩ := kept
      have suits := settled.resolve_left (by simp [notForced])
      exact .active found (inRange_of_suits suits active found)

theorem suits_forced (nonempty : ¬ passes.isEmpty = true) (inside : index ≤ passes.length - 1) :
    Suits passes (selection.selectPass index passes true) := by
  have some_pass : 0 < passes.length := by simpa [List.length_pos_iff] using nonempty
  exact suits_selectPass (List.getElem?_eq_getElem (by omega)) (.inl rfl)

/-- All that choosing an option can do to choices that suit the pass. -/
theorem selectOption_cases (suits : Suits passes selection)
    (active : selection.active? = some index) (found : passes[index]? = some pass)
    (group option : Nat) :
    (∃ chosen, pass.groups[group]? = some chosen ∧ option < chosen.size ∧
      selection.selectOption group option pass =
        ({ selection with choices := selection.choices.set group option }, .ok ())) ∨
    ∃ error, selection.selectOption group option pass = (selection, .error error) := by
  rw [selectOption, settle_of_suits suits active found]
  cases pass.groups[group]? with
  | none => exact .inr ⟨_, rfl⟩
  | some chosen =>
      by_cases below : option < chosen.size
      · exact .inl ⟨chosen, rfl, below, by simp only [if_pos below]⟩
      · exact .inr ⟨.optionOutOfRange group option chosen.size, by simp only [if_neg below]⟩

theorem suits_selectOption (suits : Suits passes selection)
    (active : selection.active? = some index) (found : passes[index]? = some pass)
    (group option : Nat) :
    Suits passes (selection.selectOption group option pass).1 := by
  rcases selectOption_cases suits active found group option with
    ⟨chosen, at_group, below, done⟩ | ⟨error, failed⟩
  · have inRange := inRange_set (inRange_of_suits suits active found) at_group below
    rw [done, active]
    exact .active found inRange
  · rw [failed]
    exact suits

/-- Choices in range pick one option from each group; those that are not empty are the keywords, in
the order of the groups. -/
theorem keywords_eq_filter {choices : List Nat} {groups : List Keyword.Group}
    (inRange : InRange choices groups) :
    ∃ options : List String, options.length = groups.length ∧
      (groups.zip choices).map (fun (group, choice) => group.option? choice) = options.map some ∧
      (groups.zip choices).filterMap (fun (group, choice) => keyword? group choice) =
        options.filter (fun option => !option.isEmpty) := by
  induction inRange with
  | nil => exact ⟨[], rfl, rfl, rfl⟩
  | @cons choice group choices groups here rest ih =>
      obtain ⟨options, one_each, picked, kept⟩ := ih
      obtain ⟨option, chosen⟩ : ∃ option, group.option? choice = some option :=
        ⟨_, List.getElem?_eq_getElem here⟩
      refine ⟨option :: options, ?_, ?_, ?_⟩
      · rw [List.length_cons, List.length_cons, one_each]
      · simp only [List.zip_cons_cons, List.map_cons, picked, chosen]
      · by_cases empty : option.isEmpty = true
        · have none_defined : keyword? group choice = none := by
            simp [keyword?, chosen, Option.filter, empty]
          simp only [List.zip_cons_cons, List.filterMap_cons, none_defined, kept, List.filter_cons,
            empty, Bool.not_true, Bool.false_eq_true, if_false]
        · have defined : keyword? group choice = some option := by
            simp [keyword?, chosen, Option.filter, empty]
          simp only [List.zip_cons_cons, List.filterMap_cons, defined, kept, List.filter_cons,
            empty, Bool.not_false, if_true]

theorem mem_options_of_mem_keywords {keyword : String}
    (member : keyword ∈ selection.keywords pass) :
    ∃ group ∈ pass.groups, keyword ∈ group.options := by
  obtain ⟨⟨group, choice⟩, paired, chosen⟩ := List.mem_filterMap.mp member
  have picked := (Option.filter_eq_some_iff.mp chosen).1
  exact ⟨group, (List.of_mem_zip paired).1, List.mem_of_getElem? picked⟩

end ShaderVariants.Selection
