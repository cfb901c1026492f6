import ShaderVariants.Proofs.Comment.Agreement
import ShaderVariants.Proofs.Text.Bytes

/-!
The search for comments with a cursor.

`spansFromCursor` never forgets a part of the text.  For each candidate it looks back: from the
candidate to the start of its line, but not behind `floor`, where the last comment ended.  After a
candidate that a line comment hides it goes on just behind the marker, so it keeps meeting hidden
candidates until the line ends.  What it finds is what the lexer finds.
-/
namespace ShaderVariants.Comment

open Text

/-- Whether a line comment begins on the line of byte `position`, neither before byte `floor` nor
behind `position`. -/
def hiddenAt (text : Text) (position floor : Nat) : Bool :=
  let front := takeBytes position text
  let start := max (size front - size (lastLine front)) floor
  let stop := min (position + 1) (size text)
  mentions lineMarker (takeBytes (stop - start) (dropBytes start text))

def spansFromCursor (text : Text) (floor cursor : Nat) : List Span :=
  match _ : cut? opening (dropBytes cursor text) with
  | none => []
  | some (before, _) =>
      let start := cursor + size before
      let inner := start + size opening
      if hiddenAt text start floor then spansFromCursor text floor inner
      else
        match cut? closing (dropBytes inner text) with
        | none => ⟨start, size text⟩ :: spansFromCursor text (size text) (size text)
        | some (inside, _) =>
            let stop := inner + size inside + size closing
            ⟨start, stop⟩ :: spansFromCursor text stop stop
termination_by size text - cursor
decreasing_by
  all_goals
    have ahead : cursor < size text := by
      refine Nat.lt_of_not_le fun past => ?_
      have found := ‹cut? opening _ = _›
      rw [dropBytes_of_size_le past] at found
      cases found
    have marker : size opening = 2 := rfl
    omega

variable {front seen ahead before body : Text} {floor cursor offset : Nat} {mode : Mode}

/-- Looking back from a character of one byte goes from the start of its line, or from the end of
the last comment, up to and with the character. -/
theorem lookback_bounds (front seen rest : Text) {c : Char} (narrow : c.utf8Size = 1) :
    ∃ above,
      front ++ (seen ++ c :: rest) = (front ++ above) ++ ((lastLine seen ++ [c]) ++ rest) ∧
      max (size (front ++ seen) - size (lastLine (front ++ seen))) (size front) =
        size (front ++ above) ∧
      min (size front + size seen + 1) (size (front ++ (seen ++ c :: rest))) =
        size (front ++ above) + size (lastLine seen ++ [c]) := by
  obtain ⟨above, whole⟩ := exists_append_lastLine seen
  have lengths : size seen = size above + size (lastLine seen) := by
    rw [← size_append, ← whole]
  refine ⟨above, ?_, ?_, ?_⟩
  · conv =>
      lhs
      rw [whole]
    simp
  · rw [lastLine_append]
    by_cases broken : '\n' ∈ seen
    · simp only [if_pos broken, size_append]
      omega
    · rw [lastLine_of_unbroken broken] at lengths
      simp only [if_neg broken, size_append]
      omega
  · simp only [size_append, size_cons, size_nil]
    omega

theorem takeBytes_seen (front seen rest : Text) :
    takeBytes (size front + size seen) (front ++ (seen ++ rest)) = front ++ seen := by
  rw [← size_append, ← List.append_assoc, takeBytes_append]

/-- Looking back from a character shows what is on its line behind the last comment. -/
theorem hiddenAt_eq (front seen rest : Text) {c : Char} (narrow : c.utf8Size = 1) :
    hiddenAt (front ++ (seen ++ c :: rest)) (size front + size seen) (size front) =
      hides (lastLine seen) c := by
  obtain ⟨above, split, start, stop⟩ := lookback_bounds front seen rest narrow
  rw [hiddenAt, takeBytes_seen, start, stop, split, dropBytes_append, Nat.add_sub_cancel_left,
    takeBytes_append, hides]

/-- What the search has seen of a line when the lexer is inside of `mode`: nothing since the last
comment, or a line comment. -/
def Seen (mode : Mode) (seen : Text) : Prop :=
  mode = .code ∧ seen = [] ∨ mode = .lineComment ∧ lineMarker <:+: lastLine seen

theorem hides_of_seen (looked : Seen .lineComment seen) (unbroken : '\n' ∉ before) :
    hides (lastLine (seen ++ before)) '/' = true := by
  rcases looked with ⟨other, _⟩ | ⟨_, marked⟩
  · cases other
  · rw [lastLine_append, if_neg unbroken, hides, mentions_iff, List.append_assoc]
    exact marked.trans (List.prefix_append _ _).isInfix

theorem size_firstLine_add {before : Text} :
    size (firstLine before) + size (fromLineEnd before) = size before := by
  rw [← size_append, firstLine_append_fromLineEnd]

theorem spansAhead_of_hidden (looked : Seen mode seen)
    (found : cut? opening ahead = some (before, body))
    (hidden : hides (lastLine (seen ++ before)) '/' = true) (start : Nat) :
    spansAhead start offset mode ahead =
      spansAhead start (offset + size before + size opening) .lineComment body := by
  rcases looked with ⟨rfl, rfl⟩ | ⟨rfl, marked⟩
  · exact spansFrom_of_hidden found hidden
  · by_cases broken : '\n' ∈ before
    · obtain ⟨first, later⟩ := cut?_fromLineEnd found broken
      rw [lastLine_append, if_pos broken, ← lastLine_fromLineEnd broken] at hidden
      rw [spansAhead, spansAhead, first, spansFrom_of_hidden later hidden,
        Nat.add_assoc offset, size_firstLine_add]
    · have whole := eq_append_of_cut? found
      have unbroken : '\n' ∉ before ++ opening := by simpa [opening] using broken
      rw [spansAhead, spansAhead, whole, firstLine_append unbroken, fromLineEnd_append unbroken,
        size_append, size_append]
      simp only [Nat.add_assoc]

theorem spansAhead_of_live (looked : Seen mode seen)
    (found : cut? opening ahead = some (before, body))
    (live : hides (lastLine (seen ++ before)) '/' = false) (start : Nat) :
    spansAhead start offset mode ahead =
      spansInside (offset + size before) (offset + size before + size opening) body := by
  rcases id looked with ⟨rfl, rfl⟩ | ⟨rfl, marked⟩
  · exact spansFrom_of_live found live
  · have broken : '\n' ∈ before := by
      refine Decidable.byContradiction fun unbroken => ?_
      rw [hides_of_seen looked unbroken] at live
      cases live
    obtain ⟨first, later⟩ := cut?_fromLineEnd found broken
    rw [lastLine_append, if_pos broken, ← lastLine_fromLineEnd broken] at live
    rw [spansAhead, first, spansFrom_of_live later live, Nat.add_assoc offset, size_firstLine_add]

theorem seen_opening (hidden : hides (lastLine seen) '/' = true) :
    Seen .lineComment (seen ++ opening) := by
  refine .inr ⟨rfl, ?_⟩
  rw [hides, mentions_iff] at hidden
  rw [lastLine_append, if_neg (by decide)]
  exact hidden.trans ⟨[], ['*'], by simp [opening]⟩

/-- The cursor stands between what has been `seen` since the last comment and what is `ahead`; that
comment, if there was one, ends `front`. -/
structure Stands (text : Text) (floor cursor : Nat) (front seen ahead : Text) : Prop where
  split : text = front ++ (seen ++ ahead)
  atFloor : floor = size front
  atCursor : cursor = size front + size seen

namespace Stands

variable {text inside after : Text}

theorem dropBytes_eq (stands : Stands text floor cursor front seen ahead) :
    dropBytes cursor text = ahead := by
  rw [stands.split, stands.atCursor, ← size_append, ← List.append_assoc, dropBytes_append]

theorem size_eq (stands : Stands text floor cursor front seen ahead) :
    size text = cursor + size ahead := by
  rw [stands.split, stands.atCursor, size_append, size_append, Nat.add_assoc]

theorem hiddenAt_iff (stands : Stands text floor cursor front seen ahead)
    (found : cut? opening ahead = some (before, body)) :
    hiddenAt text (cursor + size before) floor = hides (lastLine (seen ++ before)) '/' := by
  have whole : text = front ++ ((seen ++ before) ++ '/' :: '*' :: body) := by
    rw [stands.split, eq_append_of_cut? found]
    simp [opening]
  rw [← hiddenAt_eq front (seen ++ before) ('*' :: body) rfl, ← whole, size_append, stands.atCursor,
    stands.atFloor, Nat.add_assoc]

/-- Behind a marker that did not begin a comment. -/
theorem behindMarker (stands : Stands text floor cursor front seen ahead)
    (found : cut? opening ahead = some (before, body)) :
    Stands text floor (cursor + size before + size opening) front (seen ++ before ++ opening)
      body where
  split := by rw [stands.split, eq_append_of_cut? found]; simp
  atFloor := stands.atFloor
  atCursor := by rw [stands.atCursor]; simp only [size_append, Nat.add_assoc]

/-- Behind a comment with its own end. -/
theorem behindComment (stands : Stands text floor cursor front seen ahead)
    (closes : cut? closing ahead = some (inside, after)) :
    Stands text (cursor + size inside + size closing) (cursor + size inside + size closing)
      (front ++ seen ++ inside ++ closing) [] after where
  split := by rw [stands.split, eq_append_of_cut? closes]; simp
  atFloor := by rw [stands.atCursor]; simp only [size_append]
  atCursor := by rw [stands.atCursor]; simp only [size_append, size_nil, Nat.add_zero]

end Stands

/-- The cursor search and the search that cuts the text agree. -/
theorem spansFromCursor_eq {text : Text} (stands : Stands text floor cursor front seen ahead)
    (looked : Seen mode seen) :
    spansFromCursor text floor cursor = spansAhead 0 cursor mode ahead := by
  -- A hidden candidate puts the cursor behind its marker and the search behind its line; `mode` is
  -- what the lexer is inside of at the cursor and makes up for the difference.
  fun_induction spansFromCursor text floor cursor generalizing front seen ahead mode with
  | case1 floor cursor absent =>
      rw [stands.dropBytes_eq] at absent
      rcases looked with ⟨rfl, rfl⟩ | ⟨rfl, marked⟩
      · exact (spansFrom_of_absent absent).symm
      · have suffix : fromLineEnd ahead <:+ ahead := List.dropWhile_suffix _
        exact (spansFrom_of_absent (cut?_eq_none_of_suffix suffix absent)).symm
  | case2 floor cursor before body found start inner =>
      rename_i hidden ih
      rw [stands.dropBytes_eq] at found
      rw [stands.hiddenAt_iff found] at hidden
      rw [spansAhead_of_hidden looked found hidden]
      exact ih (stands.behindMarker found) (seen_opening hidden)
  | case3 floor cursor before body found start inner live =>
      rename_i absent ih
      rw [stands.dropBytes_eq] at found
      rw [stands.hiddenAt_iff found, Bool.not_eq_true] at live
      have entered := stands.behindMarker found
      rw [entered.dropBytes_eq] at absent
      -- The loop turns once more at the end of the text, where the search is over.
      have atEnd : Stands text (size text) (size text) text [] [] := ⟨by simp, rfl, rfl⟩
      have nothing : spansFromCursor text (size text) (size text) = [] :=
        (ih atEnd (.inl ⟨rfl, rfl⟩)).trans (spansFrom_of_absent rfl)
      rw [spansAhead_of_live looked found live, nothing, spansInside, absent, entered.size_eq]
  | case4 floor cursor before body found start inner live inside after =>
      rename_i closes stop ih
      rw [stands.dropBytes_eq] at found
      rw [stands.hiddenAt_iff found, Bool.not_eq_true] at live
      have entered := stands.behindMarker found
      rw [entered.dropBytes_eq] at closes
      rw [spansAhead_of_live looked found live, spansInside, closes,
        ih (entered.behindComment closes) (.inl ⟨rfl, rfl⟩)]
      rfl

/-- Looking back from every candidate, cutting the text at the markers and reading it once find the
same block comments in every text. -/
theorem spans_agree (text : Text) :
    spans text = comments text ∧ spansFromCursor text 0 0 = comments text := by
  have start : Stands text 0 0 [] [] text := ⟨rfl, rfl, rfl⟩
  have cursor := spansFromCursor_eq start (.inl ⟨rfl, rfl⟩)
  exact ⟨spans_eq_comments text, cursor.trans (spans_eq_comments text)⟩

example : comments "//*\n/*/ //*/x".toList = [⟨4, 12⟩] := by decide

end ShaderVariants.Comment
