import ShaderVariants.Proofs.Session.Choices

/-!
One choice in a session: a pass, and an option in one of its groups.

It succeeds exactly if the pass offers the option.  Then the group contributes the keyword of that
option, and the keywords of the session are what its groups contribute.
-/
namespace ShaderVariants

namespace Session

variable {session between after : Session} {pass : Pass} {place group option : Nat}

/-- Selecting a pass and then an option in one of its groups leads to `after`; neither fails. -/
def Chooses (session : Session) (place group option : Nat) (after : Session) : Prop :=
  ∃ between, session.selectPass place = (between, .ok ()) ∧
    between.selectOption group option = (after, .ok ())

/-- The keyword that the choice in one group of the active pass defines, if any. -/
def contribution? (session : Session) (group : Nat) : Option String := do
  let pass ← session.activePass?
  let declared ← pass.groups[group]?
  let choice ← session.selection.choices[group]?
  Selection.keyword? declared choice

theorem filterMap_zip {α β γ : Type} (pick : α → β → Option γ) (left : List α) (right : List β) :
    (left.zip right).filterMap (fun (first, second) => pick first second) =
      (List.range left.length).filterMap fun index =>
        left[index]?.bind fun first => right[index]?.bind (pick first) := by
  induction left generalizing right with
  | nil => rfl
  | cons first left ih =>
      rw [List.length_cons, List.range_succ_eq_map, List.filterMap_cons, List.filterMap_map]
      cases right with
      | nil => simp
      | cons second right =>
          simp only [List.zip_cons_cons, List.filterMap_cons, ih, List.getElem?_cons_zero,
            Option.bind_some]
          rfl

/-- The keywords of a session are the contributions of the groups, in order. -/
theorem keywords_eq_contributions (active : session.activePass? = some pass) :
    session.keywords = (List.range pass.groups.length).filterMap session.contribution? := by
  simp only [keywords, active, Selection.keywords, filterMap_zip]
  congr 1
  funext index
  simp only [contribution?, active, Option.bind_eq_bind, Option.bind_some]

theorem listed_of_selectPass (done : session.selectPass place = (between, .ok ())) :
    session.shader?.isSome = true ∧ ∃ pass, session.passes[place]? = some pass := by
  unfold selectPass at done
  split at done
  · cases done
  · next selected =>
      split at done
      · cases done
      · next below =>
          refine ⟨by simpa [Option.isSome_iff_ne_none] using selected, ?_⟩
          exact ⟨_, List.getElem?_eq_getElem (Nat.lt_of_not_le below)⟩

/-- Once a pass is selected, it is the one that choices are made in. -/
theorem requirePass_selectPass (consistent : Consistent session)
    (selected : session.shader?.isSome = true) (found : session.passes[place]? = some pass) :
    (session.selectPass place).1.requirePass = .ok pass ∧
      (session.selectPass place).1.selection.fits pass = true := by
  have active : (session.selection.selectPass place session.passes false).active? =
      some place := by
    simp only [Selection.selectPass, found]
    split <;> rfl
  have suits : Selection.Suits session.passes
      (session.selection.selectPass place session.passes false) :=
    Selection.suits_selectPass found (.inr consistent.suits)
  rw [selectPass_of_listed selected found]
  refine ⟨requirePass_eq selected ?_, ?_⟩
  · simp only [activePass?, active, Option.bind_some, found]
  · exact Selection.fits_of_inRange (Selection.inRange_of_suits suits active found)

theorem chooses_of_offers (consistent : Consistent session)
    (selected : session.shader?.isSome = true) (found : session.passes[place]? = some pass)
    (offers : pass.Offers group option) : ∃ after, session.Chooses place group option after := by
  obtain ⟨required, fitting⟩ := requirePass_selectPass consistent selected found
  have listed := selectPass_of_listed selected found
  rw [listed] at required fitting
  exact ⟨_, _, listed, selectOption_of_offers required fitting offers⟩

/-- What a choice that succeeds has found, and what it leaves. -/
theorem offers_of_chooses (consistent : Consistent session)
    (chosen : session.Chooses place group option after) :
    ∃ pass declared, session.passes[place]? = some pass ∧ pass.groups[group]? = some declared ∧
      option < declared.size ∧ after.activePass? = some pass ∧
      after.selection.choices[group]? = some option := by
  obtain ⟨between, first, second⟩ := chosen
  obtain ⟨selected, pass, found⟩ := listed_of_selectPass first
  obtain ⟨required, fitting⟩ := requirePass_selectPass consistent selected found
  simp only [first] at required fitting
  have offers : pass.Offers group option :=
    offers_of_selectOption required (congrArg Prod.snd second)
  have left := selectOption_of_offers required fitting offers
  rw [second, Prod.mk.injEq] at left
  obtain ⟨declared, at_group, below⟩ := offers
  obtain ⟨-, index, active, inside⟩ := requirePass_ok required
  have one_each : between.selection.choices.length = pass.groups.length := by
    simpa [Selection.fits] using fitting
  have in_range : group < between.selection.choices.length := by
    rw [one_each]
    exact (List.getElem?_eq_some_iff.mp at_group).1
  refine ⟨pass, declared, found, at_group, below, ?_, ?_⟩
  · rw [left.1]
    simp only [activePass?, active, Option.bind_some, inside]
  · rw [left.1]
    exact List.getElem?_set_self in_range

end Session

end ShaderVariants
