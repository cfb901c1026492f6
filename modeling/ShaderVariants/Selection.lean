import ShaderVariants.Pass

/-!
The active pass and the option chosen in each of its keyword groups.

The choices are positions, one a group.  Whenever their number does not fit the pass at hand they
start over at zero.
-/
namespace ShaderVariants

inductive SelectionError where
  | groupOutOfRange (group count : Nat)
  | optionOutOfRange (group option count : Nat)
deriving DecidableEq, Repr

def SelectionError.message : SelectionError → String
  | .groupOutOfRange group count =>
      s!"keyword group {group} is out of range (pass has {count} groups)"
  | .optionOutOfRange group option count =>
      s!"option {option} is out of range for keyword group {group} ({count} options)"

/-- The active pass, by its position, and the choice in each group. -/
structure Selection where
  active? : Option Nat := none
  choices : List Nat := []
deriving DecidableEq, Repr

namespace Selection

def empty : Selection := {}

/-- The first option in every group of `pass`. -/
def reset (selection : Selection) (pass : Pass) : Selection :=
  { selection with choices := List.replicate pass.groups.length 0 }

/-- Whether there is one choice for each group of `pass`. -/
def fits (selection : Selection) (pass : Pass) : Bool :=
  selection.choices.length = pass.groups.length

/-- Starts over if the choices do not fit `pass`. -/
def settle (selection : Selection) (pass : Pass) : Selection :=
  if selection.fits pass then selection else selection.reset pass

/-- Makes a pass active.  The choices survive only if that pass was active already and they fit it;
`force` starts over all the same.  A position past the end leaves no pass active. -/
def selectPass (selection : Selection) (index : Nat) (passes : List Pass) (force : Bool) :
    Selection :=
  match passes[index]? with
  | none => empty
  | some pass =>
      let moved : Selection := { selection with active? := some index }
      if force || selection.active? ≠ some index || !selection.fits pass then moved.reset pass
      else moved

/-- Chooses an option in a group of `pass`; choices that do not fit it start over first. -/
def selectOption (selection : Selection) (group option : Nat) (pass : Pass) :
    Selection × Except SelectionError Unit :=
  let settled := selection.settle pass
  match pass.groups[group]? with
  | none => (settled, .error (.groupOutOfRange group pass.groups.length))
  | some found =>
      if option < found.size then
        ({ settled with choices := settled.choices.set group option }, .ok ())
      else (settled, .error (.optionOutOfRange group option found.size))

/-- The keyword that a choice in a group defines, if it is not the empty option. -/
def keyword? (group : Keyword.Group) (choice : Nat) : Option String :=
  (group.option? choice).filter (fun option => !option.isEmpty)

/-- The keywords of the choices in the groups of `pass`, group by group. -/
def keywords (selection : Selection) (pass : Pass) : List String :=
  (pass.groups.zip selection.choices).filterMap fun (group, choice) => keyword? group choice

theorem fits_reset (selection : Selection) (pass : Pass) :
    (selection.reset pass).fits pass = true := by
  simp [fits, reset]

theorem settle_of_fits {selection : Selection} {pass : Pass}
    (fitting : selection.fits pass = true) : selection.settle pass = selection := by
  simp [settle, fitting]

theorem fits_settle (selection : Selection) (pass : Pass) :
    (selection.settle pass).fits pass = true := by
  by_cases fitting : selection.fits pass = true
  · rw [settle_of_fits fitting, fitting]
  · simp [settle, fitting, fits_reset]

theorem active?_settle (selection : Selection) (pass : Pass) :
    (selection.settle pass).active? = selection.active? := by
  unfold settle
  split <;> rfl

end Selection

end ShaderVariants
