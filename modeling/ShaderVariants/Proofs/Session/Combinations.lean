import Mathlib.Data.Set.Card
import ShaderVariants.Proofs.Session.Choices

/-!
The combinations of options that can be chosen in the active pass, and their number.

Selecting options leads to every combination of one option for each group and to no other, and
`variantCount` is their number, up to the limit: a product that has reached the limit stays there,
since no group is empty.
-/
namespace ShaderVariants

namespace Keyword

theorem min_mul_limit {count size limit : Nat} (positive : 0 < size) :
    min (min count limit * size) limit = min (count * size) limit := by
  rcases Nat.le_total count limit with within | beyond
  · rw [Nat.min_eq_left within]
  · have reached : limit ≤ limit * size := Nat.le_mul_of_pos_right limit positive
    rw [Nat.min_eq_right beyond, Nat.min_eq_right reached,
      Nat.min_eq_right (reached.trans (Nat.mul_le_mul_right size beyond))]

/-- It does not matter where the product reaches the limit. -/
theorem foldl_variantCount (groups : List Group) (count : Nat) :
    groups.foldl (fun count group => min (count * group.size) countLimit) (min count countLimit) =
      min (count * (groups.map Group.size).prod) countLimit := by
  induction groups generalizing count with
  | nil => simp
  | cons group rest ih =>
      rw [List.foldl_cons, min_mul_limit (Selection.size_pos group), ih, List.map_cons,
        List.prod_cons, Nat.mul_assoc]

theorem variantCount_eq_prod (groups : List Group) :
    variantCount groups = min (groups.map Group.size).prod countLimit := by
  have from_one := foldl_variantCount groups 1
  rwa [Nat.min_eq_left (by decide), Nat.one_mul] at from_one

/-- The limit is reached before the last group is. -/
example : variantCount (List.replicate 129 ⟨.multiCompile, ["", "A"], by simp⟩) = countLimit := by
  decide +kernel

end Keyword

namespace Selection

variable {choices : List Nat} {groups : List Keyword.Group}

theorem inRange_cons_eq_image (group : Keyword.Group) (groups : List Keyword.Group) :
    {choices | InRange choices (group :: groups)} =
      (fun parts : Nat × List Nat => parts.1 :: parts.2) ''
        (Finset.range group.size ×ˢ {choices | InRange choices groups}) := by
  ext choices
  constructor
  · rintro (- | ⟨here, rest⟩)
    exact ⟨(_, _), ⟨Finset.mem_coe.mpr (Finset.mem_range.mpr here), rest⟩, rfl⟩
  · rintro ⟨⟨choice, rest⟩, ⟨here, later⟩, rfl⟩
    exact .cons (Finset.mem_range.mp (Finset.mem_coe.mp here)) later

theorem finite_inRange (groups : List Keyword.Group) :
    {choices | InRange choices groups}.Finite := by
  induction groups with
  | nil =>
      refine (Set.finite_singleton []).subset ?_
      rintro choices ⟨⟩
      rfl
  | cons group rest ih =>
      rw [inRange_cons_eq_image]
      exact ((Finset.finite_toSet (Finset.range group.size)).prod ih).image _

/-- The combinations are as many as the product of the sizes says. -/
theorem ncard_inRange (groups : List Keyword.Group) :
    {choices | InRange choices groups}.ncard = (groups.map Keyword.Group.size).prod := by
  induction groups with
  | nil =>
      have only : {choices | InRange choices []} = {[]} := by
        ext choices
        exact List.forall₂_nil_right_iff
      rw [only, Set.ncard_singleton]
      rfl
  | cons group rest ih =>
      have apart : Function.Injective fun parts : Nat × List Nat => parts.1 :: parts.2 := by
        rintro ⟨choice, choices⟩ ⟨other, others⟩ same
        cases same
        rfl
      rw [inRange_cons_eq_image, Set.ncard_image_of_injective _ apart, Set.ncard_prod, ih,
        Set.ncard_coe_finset, Finset.card_range, List.map_cons, List.prod_cons]

/-- Choosing in each group what a list says leaves that list. -/
theorem choose_zipIdx {back target : List Nat} (front : List Nat)
    (one_each : back.length = target.length) :
    choose (front ++ back) ((target.zipIdx front.length).map Prod.swap) = front ++ target := by
  induction target generalizing front back with
  | nil =>
      rw [List.length_eq_zero_iff.mp one_each]
      rfl
  | cons choice target ih =>
      cases back with
      | nil => cases one_each
      | cons before back =>
          have later := @ih back (front ++ [choice]) (Nat.succ.inj one_each)
          rw [List.length_append, List.append_assoc, List.append_assoc] at later
          rw [List.zipIdx_cons, List.map_cons, Prod.swap_prod_mk, choose, List.foldl_cons,
            List.set_append_right _ _ (Nat.le_refl _), Nat.sub_self]
          exact later

theorem offers_of_inRange {pass : Pass} (inRange : InRange choices pass.groups)
    {entry : Nat × Nat} (member : entry ∈ (choices.zipIdx 0).map Prod.swap) :
    pass.Offers entry.1 entry.2 := by
  obtain ⟨⟨choice, group⟩, inside, rfl⟩ := List.mem_map.mp member
  obtain ⟨in_choices, chosen⟩ :=
    List.getElem?_eq_some_iff.mp (List.mk_mem_zipIdx_iff_getElem?.mp inside)
  have in_groups : group < pass.groups.length := inRange.length_eq ▸ in_choices
  have below := inRange.get in_choices in_groups
  refine ⟨_, List.getElem?_eq_getElem in_groups, ?_⟩
  exact chosen ▸ below

end Selection

namespace Session

variable {session : Session} {pass : Pass} {calls : List (Nat × Nat)}

/-- Options selected one after the other, each by its group and its position.  A selection that
fails does not keep the next ones from being made. -/
def selectOptions (session : Session) (calls : List (Nat × Nat)) : Session :=
  calls.foldl (fun session call => (session.selectOption call.1 call.2).1) session

/-- The choices that selecting options can lead to. -/
def reachableChoices (session : Session) : Set (List Nat) :=
  {choices | ∃ calls, (session.selectOptions calls).selection.choices = choices}

/-- Selecting an option, also one that there is not, keeps the session consistent and its pass
active. -/
theorem selectOption_keeps_active (consistent : Consistent session)
    (active : session.activePass? = some pass) (group option : Nat) :
    Consistent (session.selectOption group option).1 ∧
      (session.selectOption group option).1.activePass? = some pass := by
  obtain ⟨selection, kept, same⟩ := selectOption_keeps session group option
  have settled := settled_selectOption consistent {} group option
  refine ⟨?_, ?_⟩
  · generalize (session.selectOption group option).1 = after,
      (session.selectOption group option).2 = outcome at settled
    cases settled with
    | failed => exact consistent
    | done after => exact after
  · rw [kept, ← active]
    simp only [activePass?, same]

theorem selectOptions_keeps_active (consistent : Consistent session)
    (active : session.activePass? = some pass) (calls : List (Nat × Nat)) :
    Consistent (session.selectOptions calls) ∧
      (session.selectOptions calls).activePass? = some pass := by
  induction calls generalizing session with
  | nil => exact ⟨consistent, active⟩
  | cons call rest ih =>
      obtain ⟨after, still⟩ := selectOption_keeps_active consistent active call.1 call.2
      exact ih after still

theorem selectOptions_of_offers (required : session.requirePass = .ok pass)
    (fitting : session.selection.fits pass = true)
    (offers : ∀ call ∈ calls, pass.Offers call.1 call.2) :
    (session.selectOptions calls).selection.choices =
      Selection.choose session.selection.choices calls := by
  induction calls generalizing session with
  | nil => rfl
  | cons call rest ih =>
      rw [List.forall_mem_cons] at offers
      have first := selectOption_of_offers required fitting offers.1
      rw [selectOptions, List.foldl_cons, first]
      exact ih required (by simpa [Selection.fits] using fitting) offers.2

/-- Selecting options in a session leads to exactly the combinations of one option for each group of
the active pass, and the number of variants is the number of these, or the limit if there are
more. -/
theorem variantCount_counts_choices (reachable : Reachable session)
    (active : session.activePass? = some pass) :
    session.reachableChoices = {choices | Selection.InRange choices pass.groups} ∧
    session.reachableChoices.Finite ∧
    (∀ calls, (session.selectOptions calls).activePass? = some pass) ∧
    Keyword.variantCount pass.groups =
      if session.reachableChoices.ncard < Nat.pow 2 128 then session.reachableChoices.ncard
      else Nat.pow 2 128 - 1 := by
  have consistent := consistent_of_reachable reachable
  have same : session.reachableChoices = {choices | Selection.InRange choices pass.groups} := by
    ext choices
    constructor
    · rintro ⟨calls, rfl⟩
      obtain ⟨after, still⟩ := selectOptions_keeps_active consistent active calls
      exact inRange_of_active after still
    · intro wanted
      have before := inRange_of_active consistent active
      have one_each : session.selection.choices.length = choices.length :=
        before.length_eq.trans wanted.length_eq.symm
      refine ⟨(choices.zipIdx 0).map Prod.swap, ?_⟩
      rw [selectOptions_of_offers (requirePass_of_active consistent active)
        (Selection.fits_of_inRange before)
        fun call member => Selection.offers_of_inRange wanted member]
      exact Selection.choose_zipIdx [] one_each
  refine ⟨same, same ▸ Selection.finite_inRange pass.groups,
    fun calls => (selectOptions_keeps_active consistent active calls).2, ?_⟩
  rw [same, Selection.ncard_inRange, Keyword.variantCount_eq_prod]
  split
  · next within => exact Nat.min_eq_left (Nat.le_sub_one_of_lt within)
  · next beyond => exact Nat.min_eq_right ((Nat.sub_le _ 1).trans (Nat.le_of_not_lt beyond))

theorem variantCount_counts_six_choices :
    let source := "#pragma multi_compile A B
#pragma multi_compile X Y Z
"
    let session := ((Session.new .malioc {}).perform .defines
      (.selectShader (some (.ofSource "lit" source))) {}).session
    ∃ pass, session.activePass? = some pass ∧ Keyword.variantCount pass.groups = 6 ∧
      session.reachableChoices.ncard = 6 ∧ [1, 2] ∈ session.reachableChoices := by
  intro source session
  have reachable : Reachable session := .perform (.new _ _) _ _ _
  have counted : (session.activePass?.map fun pass =>
      (Keyword.variantCount pass.groups, pass.groups.map (·.size))) = some (6, [2, 3]) := by
    decide +kernel
  obtain ⟨pass, active, count⟩ := Option.map_eq_some_iff.mp counted
  rw [Prod.mk.injEq] at count
  obtain ⟨same, -, -, total⟩ := variantCount_counts_choices reachable active
  refine ⟨pass, active, count.1, ?_, ?_⟩
  · rw [count.1] at total
    split at total
    · exact total.symm
    · cases total
  · have wanted : List.Forall₂ (· < ·) [1, 2] (pass.groups.map (·.size)) := by
      rw [count.2]
      exact .cons (by decide) (.cons (by decide) .nil)
    rw [same]
    exact List.forall₂_map_right_iff.mp wanted

end Session

end ShaderVariants
