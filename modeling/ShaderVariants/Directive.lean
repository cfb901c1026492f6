import ShaderVariants.Comment

/-!
Preprocessor directives that no line comment hides.

The text is expected without block comments.  `reach` is the search: it stops at the next marker
that nothing hides, and leaves the rest of a line as soon as one marker on it is hidden.
-/
namespace ShaderVariants.Directive

def marker : Text := ['#', 'p', 'r', 'a', 'g', 'm', 'a']

/-- A directive: the byte offset of its marker, and its line from there on. -/
structure Occurrence where
  offset : Nat
  line : Text
deriving DecidableEq, Repr

/-- The text passed over in front of the next live marker, and the text from that marker on.
`line` is what precedes `text` on its line. -/
def reach (line : Text) (text : Text) : Option (Text × Text) :=
  match _ : Text.cut? marker text with
  | none => none
  | some (before, after) =>
      if Comment.hides (Text.lastLine (line ++ before)) '#' then
        (reach [] (Text.fromLineEnd after)).map fun (passed, live) =>
          (before ++ marker ++ Text.firstLine after ++ passed, live)
      else some (before, marker ++ after)
termination_by text.length
decreasing_by
  have shorter := Text.length_after_cut ‹Text.cut? marker _ = _›
  have suffix : (Text.fromLineEnd after).length ≤ after.length :=
    (List.dropWhile_sublist _).length_le
  omega

/-- The byte offset of the first live marker at or after `start`; nothing when there is none, and
when `start` is past the end or inside a character. -/
def find? (text : Text) (start : Nat) : Option Nat := do
  let (before, rest) ← Text.splitAt? start text
  let (passed, _) ← reach (Text.lastLine before) rest
  return start + Text.size passed

theorem eq_append_of_reach {line text passed live : Text}
    (reached : reach line text = some (passed, live)) : text = passed ++ live := by
  fun_induction reach line text generalizing passed with
  | case1 => simp at reached
  | case2 line text before after found hidden ih =>
      simp only [Option.map_eq_some_iff, Prod.mk.injEq, Prod.exists] at reached
      obtain ⟨inner, rest, later, rfl, rfl⟩ := reached
      have split : Text.firstLine after ++ Text.fromLineEnd after = after :=
        List.takeWhile_append_dropWhile
      rw [Text.eq_append_of_cut? found, ← split, ih later]
      simp [split, ← ih later]
  | case3 line text before after found =>
      have parts : before = passed ∧ marker ++ after = live := by simpa using reached
      rw [Text.eq_append_of_cut? found, ← parts.1, ← parts.2, List.append_assoc]

/-- The live directives of `text`, which starts a line at byte `offset`. -/
def liveFrom (offset : Nat) (text : Text) : List Occurrence :=
  match _ : reach [] text with
  | none => []
  | some (passed, live) =>
      let start := offset + Text.size passed
      let line := Text.firstLine live
      ⟨start, Text.trimEnd (· = '\r') line⟩ ::
        match _ : Text.fromLineEnd live with
        | [] => []
        | _ :: next => liveFrom (start + Text.size line + 1) next
termination_by text.length
decreasing_by
  have whole := congrArg List.length (eq_append_of_reach ‹reach [] _ = _›)
  have suffix : (Text.fromLineEnd live).length ≤ live.length :=
    (List.dropWhile_sublist _).length_le
  rw [‹Text.fromLineEnd live = _›, List.length_cons] at suffix
  rw [List.length_append] at whole
  omega

/-- The live directives of `text`, at most one a line, in order. -/
def live (text : Text) : List Occurrence :=
  liveFrom 0 text

end ShaderVariants.Directive
