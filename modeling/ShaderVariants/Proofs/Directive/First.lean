import Mathlib.Order.Bounds.Basic
import ShaderVariants.Proofs.Comment.Hiding
import ShaderVariants.Proofs.Directive.Lines

/-!
The first live marker from an offset on.

Whether a marker is live is said by the whole text (`LiveAt`), so an offset in the middle of a line
does not bring back to life what the line has commented out in front of it.  The search stops at a
live marker (`live_of_reach`) and at or in front of every live marker (`exists_reach_of_live`).

The search can also be read as a loop over byte offsets that looks back from each marker.  A turn of
it keeps the answer and goes on (`find?_of_turn`), so the loop ends, with that answer.
-/
namespace ShaderVariants.Directive

open Text

variable {text line above before after front rest passed ahead : Text} {cursor offset later : Nat}
  {answer : Option Nat}

/-- A marker stands at byte `offset`, and no `//` in front of it on its line. -/
def LiveAt (text : Text) (offset : Nat) : Prop :=
  ∃ above line after, text = above ++ (line ++ (marker ++ after)) ∧ Closed above ∧ '\n' ∉ line ∧
    ¬ Comment.lineMarker <:+: line ∧ offset = size above + size line

theorem liveAt_iff :
    LiveAt text offset ↔
      ∃ before after, text = before ++ (marker ++ after) ∧
        Comment.hides (lastLine before) '#' = false ∧ offset = size before := by
  constructor
  · rintro ⟨above, line, after, rfl, closed, unbroken, uncommented, rfl⟩
    refine ⟨above ++ line, after, (List.append_assoc _ _ _).symm, ?_, (size_append _ _).symm⟩
    rw [lastLine_closed_append closed unbroken, ← Bool.not_eq_true, Comment.hides_hash_iff]
    exact uncommented
  · rintro ⟨before, after, rfl, live, rfl⟩
    obtain ⟨above, whole, closed⟩ := exists_closed_append_lastLine before
    refine ⟨above, lastLine before, after, ?_, closed, lastLine_unbroken before, ?_, ?_⟩
    · rw [← List.append_assoc above, ← whole]
    · rw [← Comment.hides_hash_iff, live]
      exact Bool.false_ne_true
    · rw [← size_append, ← whole]

/-- What hides a marker hides the others on the rest of its line. -/
theorem hides_append (hidden : Comment.hides (lastLine front) '#' = true)
    (unbroken : '\n' ∉ rest) : Comment.hides (lastLine (front ++ rest)) '#' = true := by
  rw [Comment.hides_hash_iff] at hidden ⊢
  rw [lastLine_append, if_neg unbroken]
  exact hidden.trans (List.prefix_append _ _).isInfix

theorem marker_prefix_of_reach (reached : reach line text = some (passed, ahead)) :
    marker <+: ahead := by
  fun_induction reach line text generalizing passed with
  | case1 => simp at reached
  | case2 line text before after found hidden ih =>
      simp only [Option.map_eq_some_iff, Prod.mk.injEq, Prod.exists] at reached
      obtain ⟨inner, _, below, -, rfl⟩ := reached
      exact ih below
  | case3 line text before after found =>
      have parts : before = passed ∧ marker ++ after = ahead := by simpa using reached
      exact ⟨after, parts.2⟩

/-- The search that goes on at the end of a line goes on below it. -/
theorem break_mem_of_reach (reached : reach line (fromLineEnd text) = some (passed, ahead)) :
    '\n' ∈ passed := by
  obtain ⟨after, rfl⟩ := marker_prefix_of_reach reached
  have whole := eq_append_of_reach reached
  cases passed with
  | nil => rcases fromLineEnd_cases text with nothing | ⟨below, more⟩ <;> simp_all [marker]
  | cons c passed =>
      rcases fromLineEnd_cases text with nothing | ⟨below, more⟩
      · rw [nothing] at whole
        cases whole
      · rw [more] at whole
        cases whole
        exact List.mem_cons_self

theorem live_of_reach (reached : reach line text = some (passed, ahead)) :
    Comment.hides (lastLine (line ++ passed)) '#' = false := by
  fun_induction reach line text generalizing passed with
  | case1 => simp at reached
  | case2 line text before after found hidden ih =>
      simp only [Option.map_eq_some_iff, Prod.mk.injEq, Prod.exists] at reached
      obtain ⟨inner, _, below, rfl, rfl⟩ := reached
      have live := ih below
      rw [List.nil_append] at live
      rw [← List.append_assoc, lastLine_append, if_pos (break_mem_of_reach below), live]
  | case3 line text before after found live =>
      have parts : before = passed ∧ marker ++ after = ahead := by simpa using reached
      rw [← parts.1, Bool.eq_false_iff]
      exact live

/-- A live marker is reached, unless the search stops in front of it. -/
theorem exists_reach_of_live (stands : text = before ++ (marker ++ after))
    (live : Comment.hides (lastLine (line ++ before)) '#' = false) :
    ∃ passed ahead, reach line text = some (passed, ahead) ∧ passed <+: before := by
  fun_induction reach line text generalizing before with
  | case1 line text absent =>
      have inside : marker <:+: text := ⟨before, after, by rw [stands, List.append_assoc]⟩
      exact absurd inside (cut?_eq_none_iff.mp absent)
  | case2 line text first follows found hidden ih =>
      obtain ⟨more, rfl⟩ := prefix_of_cut? found stands
      -- A marker behind the hidden one on its line is hidden too, so this one is below that line.
      have broken : '\n' ∈ more := by
        refine Decidable.byContradiction fun unbroken => ?_
        rw [← List.append_assoc, hides_append hidden unbroken] at live
        cases live
      have whole : marker ++ follows = more ++ (marker ++ after) := by
        rw [eq_append_of_cut? found, List.append_assoc, List.append_assoc] at stands
        exact List.append_cancel_left stands
      have clean : '\n' ∉ marker := by decide
      have onLine : marker ++ firstLine follows = firstLine more := by
        rw [← firstLine_append clean, whole, firstLine_broken_append broken]
      have below : fromLineEnd follows = fromLineEnd more ++ (marker ++ after) := by
        rw [← fromLineEnd_append clean, whole, fromLineEnd_broken_append broken]
      rw [← List.append_assoc, lastLine_append, if_pos broken, ← lastLine_fromLineEnd broken,
        ← List.nil_append (fromLineEnd more)] at live
      obtain ⟨passed, ahead, reached, within⟩ := ih below live
      have first_line : firstLine more ++ passed <+: more := by
        have split := (List.prefix_append_right_inj (firstLine more)).mpr within
        rwa [firstLine_append_fromLineEnd] at split
      refine ⟨_, _, by rw [reached]; rfl, ?_⟩
      rw [List.append_assoc first, onLine, List.append_assoc]
      exact (List.prefix_append_right_inj first).mpr first_line
  | case3 line text first follows found =>
      exact ⟨first, _, rfl, prefix_of_cut? found stands⟩

/-- The live markers from an offset on, as the search from there meets them. -/
theorem liveAt_append_iff :
    size front ≤ offset ∧ LiveAt (front ++ rest) offset ↔
      ∃ before after, rest = before ++ (marker ++ after) ∧
        Comment.hides (lastLine (lastLine front ++ before)) '#' = false ∧
        offset = size front + size before := by
  simp only [lastLine_lastLine_append, liveAt_iff, ← size_append]
  constructor
  · rintro ⟨behind, whole, after, split, live, rfl⟩
    obtain ⟨before, rfl⟩ := prefix_of_size_le split behind
    rw [List.append_assoc, List.append_cancel_left_eq] at split
    exact ⟨before, after, split, live, rfl⟩
  · rintro ⟨before, after, rfl, live, rfl⟩
    refine ⟨?_, front ++ before, after, (List.append_assoc _ _ _).symm, live, rfl⟩
    rw [size_append]
    exact Nat.le_add_right _ _

theorem isLeast_of_find?_append (found : find? (front ++ rest) (size front) = some offset) :
    IsLeast {offset | size front ≤ offset ∧ LiveAt (front ++ rest) offset} offset := by
  rw [find?_append] at found
  obtain ⟨⟨passed, ahead⟩, reached, rfl⟩ := Option.map_eq_some_iff.mp found
  obtain ⟨after, rfl⟩ := marker_prefix_of_reach reached
  constructor
  · exact liveAt_append_iff.mpr
      ⟨passed, after, eq_append_of_reach reached, live_of_reach reached, rfl⟩
  · intro other listed
    obtain ⟨before, after, stands, live, rfl⟩ := liveAt_append_iff.mp listed
    obtain ⟨_, _, again, more, rfl⟩ := exists_reach_of_live stands live
    rw [reached] at again
    cases again
    simp only [size_append]
    omega

theorem exists_find?_append (behind : size front ≤ offset) (live : LiveAt (front ++ rest) offset) :
    ∃ found, find? (front ++ rest) (size front) = some found := by
  obtain ⟨before, after, stands, uncommented, rfl⟩ := liveAt_append_iff.mp ⟨behind, live⟩
  obtain ⟨passed, ahead, reached, within⟩ := exists_reach_of_live stands uncommented
  rw [find?_append, reached]
  exact ⟨_, rfl⟩

theorem find?_of_refused (refused : splitAt? cursor text = none) : find? text cursor = none := by
  rw [find?, refused]
  rfl

/-- What a turn of the loop comes to: it answers, or goes on from another offset. -/
inductive Turn where
  | answered (answer : Option Nat)
  | resumed (cursor : Nat)

/-- A turn of the search as a loop over byte offsets.  It goes to the next marker from `cursor` on
and, if looking back on the line of that shows a `//`, on to the end of the line. -/
def turn (text : Text) (cursor : Nat) : Turn :=
  match splitAt? cursor text with
  | none => .answered none
  | some (_, rest) =>
      match cut? marker rest with
      | none => .answered none
      | some (before, after) =>
          let offset := cursor + size before
          if Comment.hiddenAt text offset 0 then
            .resumed (offset + size (firstLine (marker ++ after)))
          else .answered (some offset)

/-- The loop ends with an answer if it starts at the offset. -/
inductive Ends (text : Text) : (cursor : Nat) → (answer : Option Nat) → Prop
  | answered {cursor : Nat} {answer : Option Nat} :
      turn text cursor = .answered answer → Ends text cursor answer
  | resumed {cursor later : Nat} {answer : Option Nat} :
      turn text cursor = .resumed later → Ends text later answer → Ends text cursor answer

theorem turn_append_of_absent (absent : cut? marker rest = none) :
    turn (front ++ rest) (size front) = .answered none := by
  simp only [turn, splitAt?_append, absent]

theorem turn_append (found : cut? marker rest = some (before, after)) :
    turn (front ++ rest) (size front) =
      if Comment.hides (lastLine (lastLine front ++ before)) '#' then
        .resumed (size front + size before + size (marker ++ firstLine after))
      else .answered (some (size front + size before)) := by
  have clean : '\n' ∉ marker := by decide
  have looked : Comment.hiddenAt (front ++ rest) (size front + size before) 0 =
      Comment.hides (lastLine (lastLine front ++ before)) '#' := by
    rw [lastLine_lastLine_append, ← Comment.hiddenAt_hash, size_append, List.append_assoc,
      eq_append_of_cut? found, List.append_assoc]
  simp only [turn, splitAt?_append, found, looked, firstLine_append clean]

/-- Where a line ends, what is in front of the end does not matter to the search. -/
theorem reach_fromLineEnd (line text : Text) :
    reach line (fromLineEnd text) = reach [] (fromLineEnd text) := by
  rcases fromLineEnd_cases text with nothing | ⟨below, more⟩
  · rw [nothing, reach_of_absent rfl, reach_of_absent rfl]
  · rw [more]
    cases found : cut? marker below with
    | none =>
        have absent : cut? marker ('\n' :: below) = none := by
          rw [cut?_cons (by simp [marker]), found]
          rfl
        rw [reach_of_absent absent, reach_of_absent absent]
    | some parts =>
        obtain ⟨before, after⟩ := parts
        have ahead : cut? marker ('\n' :: below) = some ('\n' :: before, after) := by
          rw [cut?_cons (by simp [marker]), found]
          rfl
        have seen : lastLine (line ++ '\n' :: before) = lastLine ([] ++ '\n' :: before) := by
          rw [lastLine_break, lastLine_break]
        cases hidden : Comment.hides (lastLine ([] ++ '\n' :: before)) '#' with
        | false => rw [reach_of_live ahead hidden, reach_of_live ahead (seen ▸ hidden)]
        | true => rw [reach_of_hidden ahead hidden, reach_of_hidden ahead (seen ▸ hidden)]

/-- A turn either answers what the search answers, or goes on further ahead to the same answer. -/
theorem find?_of_turn (text : Text) (cursor : Nat) :
    turn text cursor = .answered (find? text cursor) ∨
      ∃ later, turn text cursor = .resumed later ∧ cursor < later ∧ later ≤ size text ∧
        find? text later = find? text cursor := by
  cases cut : splitAt? cursor text with
  | none =>
      left
      rw [find?_of_refused cut, turn, cut]
  | some parts =>
      obtain ⟨front, rest⟩ := parts
      obtain ⟨rfl, rfl⟩ := splitAt?_eq_some_iff.mp cut
      rw [find?_append]
      cases found : cut? marker rest with
      | none =>
          left
          rw [turn_append_of_absent found, reach_of_absent found]
          rfl
      | some parts =>
          obtain ⟨before, after⟩ := parts
          rw [turn_append found]
          cases hidden : Comment.hides (lastLine (lastLine front ++ before)) '#' with
          | false =>
              left
              rw [reach_of_live found hidden]
              rfl
          | true =>
              right
              have whole : front ++ rest =
                  (front ++ before ++ marker ++ firstLine after) ++ fromLineEnd after := by
                rw [eq_append_of_cut? found, List.append_assoc _ (firstLine after),
                  firstLine_append_fromLineEnd]
                simp only [List.append_assoc]
              have length : size front + size before + size (marker ++ firstLine after) =
                  size (front ++ before ++ marker ++ firstLine after) := by
                simp only [size_append, Nat.add_assoc]
              have markerLength : size marker = 7 := rfl
              refine ⟨_, rfl, ?_, ?_, ?_⟩
              · rw [size_append, markerLength]
                omega
              · rw [length, whole, size_append _ (fromLineEnd after)]
                exact Nat.le_add_right _ _
              · rw [length, whole, find?_append, reach_fromLineEnd, reach_of_hidden found hidden,
                  Option.map_map]
                refine congrArg (Option.map · _) (funext fun parts => ?_)
                simp only [Function.comp_apply, size_append, Nat.add_assoc]

theorem ends_find? (text : Text) (cursor : Nat) : Ends text cursor (find? text cursor) := by
  rcases find?_of_turn text cursor with answered | ⟨later, resumed, further, within, same⟩
  · exact .answered answered
  · exact .resumed resumed (same ▸ ends_find? text later)
termination_by size text - cursor

theorem eq_find?_of_ends (ends : Ends text cursor answer) : answer = find? text cursor := by
  induction ends with
  | @answered cursor answer answered =>
      rcases find?_of_turn text cursor with same | ⟨later, resumed, -⟩
      · rw [answered] at same
        exact Turn.answered.inj same
      · rw [answered] at resumed
        cases resumed
  | @resumed cursor later answer resumed _ ih =>
      rcases find?_of_turn text cursor with answered | ⟨other, again, -, -, same⟩
      · rw [resumed] at answered
        cases answered
      · rw [resumed] at again
        cases again
        exact ih.trans same

/-- The search answers the first live marker from an offset on.  It has no answer exactly if there
is none, or the offset is past the end or inside a character.  As a loop over byte offsets it ends,
wherever it starts, and with that answer. -/
theorem find?_finds_first (text : Text) (start : Nat) :
    (∀ offset, find? text start = some offset ↔
      (start ≤ size text ∧ ¬ InsideCharacter text start) ∧
        IsLeast {offset | start ≤ offset ∧ LiveAt text offset} offset) ∧
    (find? text start = none ↔
      (¬ ∃ offset, start ≤ offset ∧ LiveAt text offset) ∨
        size text < start ∨ InsideCharacter text start) ∧
    ∀ answer, Ends text start answer ↔ answer = find? text start := by
  have ended (answer : Option Nat) : Ends text start answer ↔ answer = find? text start :=
    ⟨eq_find?_of_ends, fun same => same ▸ ends_find? text start⟩
  cases cut : splitAt? start text with
  | none =>
      have refused := splitAt?_eq_none_iff.mp cut
      have proper : ¬ (start ≤ size text ∧ ¬ InsideCharacter text start) := by
        rintro ⟨within, outside⟩
        exact refused.elim (Nat.not_lt.mpr within) outside
      have nothing := find?_of_refused cut
      refine ⟨fun offset => ?_, iff_of_true nothing (.inr refused), ended⟩
      rw [nothing]
      exact iff_of_false nofun fun accepted => proper accepted.1
  | some parts =>
      have accepted : ¬ (size text < start ∨ InsideCharacter text start) := by
        rw [← splitAt?_eq_none_iff, cut]
        exact nofun
      have proper : start ≤ size text ∧ ¬ InsideCharacter text start := by
        rwa [not_or, Nat.not_lt] at accepted
      obtain ⟨front, rest⟩ := parts
      obtain ⟨rfl, rfl⟩ := splitAt?_eq_some_iff.mp cut
      refine ⟨fun offset => ⟨fun found => ⟨proper, isLeast_of_find?_append found⟩, ?_⟩, ?_, ended⟩
      · rintro ⟨-, least⟩
        obtain ⟨found, reached⟩ := exists_find?_append least.1.1 least.1.2
        rw [reached, (isLeast_of_find?_append reached).unique least]
      · rw [or_iff_left accepted]
        constructor
        · rintro nothing ⟨offset, behind, live⟩
          obtain ⟨found, reached⟩ := exists_find?_append behind live
          rw [nothing] at reached
          cases reached
        · intro absent
          cases found : find? (front ++ rest) (size front) with
          | none => rfl
          | some offset => exact absurd ⟨offset, (isLeast_of_find?_append found).1⟩ absent

end ShaderVariants.Directive
