import ShaderVariants.Directive
import ShaderVariants.Proofs.Text.Bytes
import ShaderVariants.Proofs.Text.Search

/-!
What the search for directives does at the first marker ahead of it.
-/
namespace ShaderVariants.Directive

open Text

variable {line text before after : Text}

theorem reach_of_live (found : cut? marker text = some (before, after))
    (live : Comment.hides (lastLine (line ++ before)) '#' = false) :
    reach line text = some (before, marker ++ after) := by
  rw [reach]
  split
  · next absent => simp [absent] at found
  · next again =>
      rw [found] at again
      cases again
      rw [if_neg (by simp [live])]

theorem reach_of_hidden (found : cut? marker text = some (before, after))
    (hidden : Comment.hides (lastLine (line ++ before)) '#' = true) :
    reach line text = (reach [] (fromLineEnd after)).map fun (passed, live) =>
      (before ++ marker ++ firstLine after ++ passed, live) := by
  rw [reach]
  split
  · next absent => simp [absent] at found
  · next again =>
      rw [found] at again
      cases again
      rw [if_pos hidden]

theorem find?_append (before rest : Text) :
    find? (before ++ rest) (size before) =
      (reach (lastLine before) rest).map fun (passed, _) => size before + size passed := by
  rw [find?, splitAt?_append, Option.bind_eq_bind, Option.bind_some]
  cases found : reach (lastLine before) rest with
  | none => simp [found]
  | some parts => simp [found]

/-- The search that begins at a marker answers that marker unless a line comment hides it. -/
theorem find?_at_marker (before after : Text) :
    find? (before ++ (marker ++ after)) (size before) = some (size before) ↔
      Comment.hides (lastLine before) '#' = false := by
  have cut : cut? marker (marker ++ after) = some ([], after) := cut?_append marker after
  have seen : lastLine (lastLine before ++ []) = lastLine before := by
    rw [List.append_nil, lastLine_lastLine]
  rw [find?_append]
  cases hidden : Comment.hides (lastLine before) '#' with
  | false => simp [reach_of_live cut (by rw [seen, hidden]), size_nil]
  | true =>
      have length : size marker = 7 := rfl
      rw [reach_of_hidden cut (by rw [seen, hidden])]
      cases reach [] (fromLineEnd after) with
      | none => simp
      | some parts => simp [size_append, length]

end ShaderVariants.Directive
