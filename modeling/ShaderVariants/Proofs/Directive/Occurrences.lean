import ShaderVariants.Proofs.Directive.First
import ShaderVariants.Proofs.Text.Trim

/-!
The live directives as a reader lists them: line by line, at most one on each.

What a line lists is said by its first marker alone (`Listed`); the markers behind that one are a
part of its directive.  Going through the text with a cursor from one live marker to the end of its
line, and on behind that, collects the same directives (`Collected`).
-/
namespace ShaderVariants.Directive

open Text

variable {text line above before after rest passed ahead : Text} {cursor offset : Nat}
  {found : List Occurrence}

/-- The marker between `before` and `after` is the first one on the line. -/
def FirstMarker (line before after : Text) : Prop :=
  line = before ++ (marker ++ after) ∧
    ∀ front back, line = front ++ (marker ++ back) → before <+: front

/-- The directives of lines that begin below `above`: of each line with a first marker that no `//`
is in front of, that marker and the line from there on, without returns at its end. -/
inductive Listed : (above : Text) → (lines : List Text) → List Occurrence → Prop
  | nil {above : Text} : Listed above [] []
  | silent {above line : Text} {below : List Text} {found : List Occurrence} :
      (¬ ∃ before after, FirstMarker line before after ∧ ¬ Comment.lineMarker <:+: before) →
      Listed (above ++ (line ++ ['\n'])) below found → Listed above (line :: below) found
  | live {above line before after code : Text} {below : List Text} {found : List Occurrence}
      {returns : Nat} :
      FirstMarker line before after → ¬ Comment.lineMarker <:+: before →
      marker ++ after = code ++ List.replicate returns '\r' → code.getLast? ≠ some '\r' →
      Listed (above ++ (line ++ ['\n'])) below found →
      Listed above (line :: below) (⟨size above + size before, code⟩ :: found)

/-- The directives that are met from byte `cursor` on when the search goes on one byte behind the
end of the line of each. -/
inductive Collected (text : Text) : (cursor : Nat) → List Occurrence → Prop
  | done {cursor : Nat} : find? text cursor = none → Collected text cursor []
  | next {cursor offset : Nat} {front ahead : Text} {found : List Occurrence} :
      find? text cursor = some offset → splitAt? offset text = some (front, ahead) →
      Collected text (offset + size (firstLine ahead) + 1) found →
      Collected text cursor (⟨offset, trimEnd (· = '\r') (firstLine ahead)⟩ :: found)

theorem firstMarker_iff : FirstMarker line before after ↔ cut? marker line = some (before, after) :=
  cut?_eq_some_iff.symm

theorem occurrence?_eq_none_iff (unbroken : '\n' ∉ line) :
    occurrence? offset line = none ↔
      ¬ ∃ before after, FirstMarker line before after ∧ ¬ Comment.lineMarker <:+: before := by
  simp only [firstMarker_iff, ← Comment.hides_hash_iff]
  rw [occurrence?, firstLine_of_unbroken unbroken]
  cases cut? marker line with
  | none => simp
  | some parts =>
      obtain ⟨before, after⟩ := parts
      cases hidden : Comment.hides before '#' with
      | false => simp [hidden]
      | true => simp [hidden]

theorem occurrence?_eq_some_iff (unbroken : '\n' ∉ line) {occurrence : Occurrence} :
    occurrence? offset line = some occurrence ↔
      ∃ before after, FirstMarker line before after ∧ ¬ Comment.lineMarker <:+: before ∧
        occurrence = ⟨offset + size before, trimEnd (· = '\r') (marker ++ after)⟩ := by
  simp only [firstMarker_iff, ← Comment.hides_hash_iff]
  rw [occurrence?, firstLine_of_unbroken unbroken]
  cases cut? marker line with
  | none => simp
  | some parts =>
      obtain ⟨before, after⟩ := parts
      cases hidden : Comment.hides before '#' with
      | false => simpa [hidden] using eq_comm
      | true => simp [hidden]

/-- A line lists what is read off it alone, and then come the lines below it. -/
theorem Listed.cons (unbroken : '\n' ∉ line) {below : List Text}
    (later : Listed (above ++ (line ++ ['\n'])) below found) :
    Listed above (line :: below) ((occurrence? (size above) line).toList ++ found) := by
  cases declared : occurrence? (size above) line with
  | none => exact .silent ((occurrence?_eq_none_iff unbroken).mp declared) later
  | some occurrence =>
      obtain ⟨before, after, first, uncommented, rfl⟩ :=
        (occurrence?_eq_some_iff unbroken).mp declared
      obtain ⟨⟨returns, whole⟩, stops⟩ := trimEnd_eq_iff.mp (rfl : trimEnd (· = '\r') _ = _)
      exact .live first uncommented whole stops later

theorem listed_occurrencesFrom (above text : Text) :
    Listed above (text.splitOn '\n') (occurrencesFrom (size above) (lines text)) := by
  induction text using lines_induction generalizing above with
  | last line unbroken =>
      rw [List.splitOn_eq_singleton unbroken]
      have listed : Listed above [line] _ := .cons unbroken .nil
      by_cases empty : line = []
      · subst empty
        exact listed
      · rw [lines_of_unbroken unbroken empty]
        exact listed
  | next line rest unbroken ih =>
      rw [List.splitOn_append_cons_self_of_not_mem unbroken, lines_cons_line unbroken,
        occurrencesFrom, occurrence?_concat unbroken, ← size_append]
      exact .cons unbroken (ih _)

theorem Listed.unique {lines : List Text} {other : List Occurrence}
    (listed : Listed above lines found) (again : Listed above lines other) : found = other := by
  induction listed generalizing other with
  | nil =>
      cases again
      rfl
  | silent silent _ ih =>
      cases again with
      | silent _ later => exact ih later
      | live first uncommented => exact absurd ⟨_, _, first, uncommented⟩ silent
  | live first uncommented whole stops _ ih =>
      cases again with
      | silent silent => exact absurd ⟨_, _, first, uncommented⟩ silent
      | live same _ whole_again stops_again later =>
          rw [firstMarker_iff] at first same
          rw [first] at same
          cases same
          rw [ih later, ← trimEnd_eq_iff.mpr ⟨⟨_, whole⟩, stops⟩,
            trimEnd_eq_iff.mpr ⟨⟨_, whole_again⟩, stops_again⟩]

theorem Collected.unique {other : List Occurrence} (collected : Collected text cursor found)
    (again : Collected text cursor other) : found = other := by
  induction collected generalizing other with
  | done absent =>
      cases again with
      | done => rfl
      | next reached => simp [absent] at reached
  | next reached cut _ ih =>
      cases again with
      | done absent => simp [absent] at reached
      | next reached_again cut_again later =>
          rw [reached] at reached_again
          cases reached_again
          rw [cut] at cut_again
          cases cut_again
          rw [ih later]

/-- A text that starts a line has no live directive, or its first one on its last line, or lines
below that of the first one. -/
theorem liveFrom_induction {motive : Nat → Text → Prop}
    (silent : ∀ offset rest, reach [] rest = none → liveFrom offset rest = [] → motive offset rest)
    (last : ∀ offset passed line, reach [] (passed ++ line) = some (passed, line) →
      '\n' ∉ line →
      liveFrom offset (passed ++ line) = [⟨offset + size passed, trimEnd (· = '\r') line⟩] →
      motive offset (passed ++ line))
    (next : ∀ offset passed line below,
      reach [] (passed ++ (line ++ '\n' :: below)) = some (passed, line ++ '\n' :: below) →
      '\n' ∉ line →
      liveFrom offset (passed ++ (line ++ '\n' :: below)) =
        ⟨offset + size passed, trimEnd (· = '\r') line⟩ ::
          liveFrom (offset + size (passed ++ (line ++ ['\n']))) below →
      motive (offset + size (passed ++ (line ++ ['\n']))) below →
      motive offset (passed ++ (line ++ '\n' :: below)))
    (offset : Nat) (rest : Text) : motive offset rest := by
  cases found : reach [] rest with
  | none => exact silent offset rest found (liveFrom_of_reach_none found)
  | some parts =>
      obtain ⟨passed, ahead⟩ := parts
      have unbroken := firstLine_unbroken ahead
      have split := firstLine_append_fromLineEnd ahead
      have whole := eq_append_of_reach found
      have listed : liveFrom offset rest = _ := liveFrom_of_reach found
      rcases fromLineEnd_cases ahead with ended | ⟨below, more⟩
      · rw [ended, List.append_nil] at split
        rw [ended, split] at listed
        rw [whole] at found listed ⊢
        exact last offset passed ahead found (split ▸ unbroken) listed
      · rw [more] at split listed
        have shorter : below.length < rest.length := by
          rw [whole, ← split]
          simp only [List.length_append, List.length_cons]
          omega
        have length : offset + size passed + size (firstLine ahead) + 1 =
            offset + size (passed ++ (firstLine ahead ++ ['\n'])) := by
          simp only [size_append, Nat.add_assoc]
          rfl
        have later := liveFrom_induction silent last next
          (offset + size (passed ++ (firstLine ahead ++ ['\n']))) below
        simp only [length] at listed
        have here := next offset passed (firstLine ahead) below
        rw [split, ← whole] at here
        exact here found unbroken listed later
termination_by rest.length

/-- From the beginning of a line the cursor meets the directive that the search reaches. -/
theorem Collected.cons (closed : Closed above)
    (reached : reach [] (passed ++ ahead) = some (passed, ahead)) (ends : firstLine ahead = line)
    (later : Collected (above ++ (passed ++ ahead)) (size above + size passed + size line + 1)
      found) :
    Collected (above ++ (passed ++ ahead)) (size above)
      (⟨size above + size passed, trimEnd (· = '\r') line⟩ :: found) := by
  subst ends
  have cut : splitAt? (size above + size passed) (above ++ (passed ++ ahead)) =
      some (above ++ passed, ahead) :=
    splitAt?_eq_some_iff.mpr ⟨(List.append_assoc _ _ _).symm, (size_append _ _).symm⟩
  refine .next ?_ cut later
  rw [find?_append, lastLine_of_closed closed, reached]
  rfl

/-- The cursor collects from the beginning of a line what is live from there on. -/
theorem collected_liveFrom (closed : Closed above) (start : offset = size above) (rest : Text) :
    Collected (above ++ rest) offset (liveFrom offset rest) := by
  induction offset, rest using liveFrom_induction generalizing above with
  | silent offset rest absent listed =>
      subst start
      rw [listed]
      refine .done ?_
      rw [find?_append, lastLine_of_closed closed, absent]
      rfl
  | last offset passed line reached unbroken listed =>
      subst start
      rw [listed]
      have past : size (above ++ (passed ++ line)) <
          size above + size passed + size line + 1 := by
        simp only [size_append]
        omega
      have nothing := find?_of_refused (splitAt?_eq_none_iff.mpr (.inl past))
      exact .cons closed reached (firstLine_of_unbroken unbroken) (.done nothing)
  | next offset passed line below reached unbroken listed ih =>
      subst start
      rw [listed]
      have ends : firstLine (line ++ '\n' :: below) = line := by
        rw [firstLine_append unbroken]
        exact List.append_nil line
      have length : size above + size passed + size line + 1 =
          size above + size (passed ++ (line ++ ['\n'])) := by
        simp only [size_append, Nat.add_assoc]
        rfl
      have whole : above ++ (passed ++ (line ++ '\n' :: below)) =
          above ++ (passed ++ (line ++ ['\n'])) ++ below := by
        simp
      have closed_below : Closed (above ++ (passed ++ (line ++ ['\n']))) := by
        simpa only [List.append_assoc] using closed_concat (above ++ (passed ++ line))
      refine .cons closed reached ends ?_
      rw [length, whole]
      exact ih closed_below (size_append _ _).symm

/-- Each directive is met somewhere in the text it was found in. -/
theorem exists_split_of_mem_liveFrom {occurrence : Occurrence}
    (member : occurrence ∈ liveFrom offset rest) :
    ∃ passed ahead, rest = passed ++ ahead ∧ occurrence.offset = offset + size passed := by
  induction offset, rest using liveFrom_induction with
  | silent offset rest absent listed => simp [listed] at member
  | last offset passed line reached unbroken listed =>
      rw [listed, List.mem_singleton] at member
      subst member
      exact ⟨passed, line, rfl, rfl⟩
  | next offset passed line below reached unbroken listed ih =>
      rw [listed, List.mem_cons] at member
      rcases member with rfl | later
      · exact ⟨passed, _, rfl, rfl⟩
      · obtain ⟨more, ahead, rfl, place⟩ := ih later
        refine ⟨passed ++ (line ++ ['\n']) ++ more, ahead, by simp, ?_⟩
        rw [place, size_append _ more, Nat.add_assoc]

/-- A line ends between any two of the directives. -/
theorem pairwise_liveFrom (start : offset = size above) (rest : Text) :
    (liveFrom offset rest).Pairwise fun one other =>
      ∃ between, slice? one.offset other.offset (above ++ rest) = some between ∧
        '\n' ∈ between := by
  induction offset, rest using liveFrom_induction generalizing above with
  | silent offset rest absent listed =>
      rw [listed]
      exact .nil
  | last offset passed line reached unbroken listed =>
      rw [listed]
      exact List.pairwise_singleton _ _
  | next offset passed line below reached unbroken listed ih =>
      subst start
      rw [listed]
      have whole : above ++ (passed ++ (line ++ '\n' :: below)) =
          above ++ (passed ++ (line ++ ['\n'])) ++ below := by
        simp
      refine List.pairwise_cons.mpr ⟨fun other member => ?_, ?_⟩
      · obtain ⟨more, ahead, rfl, place⟩ := exists_split_of_mem_liveFrom member
        refine ⟨line ++ '\n' :: more, slice?_eq_some_iff.mpr ⟨above ++ passed, ahead, ?_, ?_, ?_⟩,
          by simp⟩
        · simp
        · rw [size_append]
        · rw [place]
          simp [size_append, size_cons, size_nil, Nat.add_assoc]
      · rw [whole]
        exact ih (size_append _ _).symm

/-- The live directives are what a reader lists line by line, one for each line with a first marker
that is not commented out; a cursor that leaves each line at its first live marker collects them;
and no two of them are on one line. -/
theorem live_lists_lines (text : Text) :
    (∀ found, Listed [] (text.splitOn '\n') found ↔ found = live text) ∧
    (∀ found, Collected text 0 found ↔ found = live text) ∧
    (live text).Pairwise fun one other =>
      ∃ between, slice? one.offset other.offset text = some between ∧ '\n' ∈ between := by
  have listed : Listed [] (text.splitOn '\n') (live text) := by
    rw [live, liveFrom_eq_occurrencesFrom]
    exact listed_occurrencesFrom [] text
  have collected : Collected text 0 (live text) := collected_liveFrom closed_nil rfl text
  exact ⟨fun found => ⟨fun again => again.unique listed, fun same => same ▸ listed⟩,
    fun found => ⟨fun again => again.unique collected, fun same => same ▸ collected⟩,
    @pairwise_liveFrom [] 0 rfl text⟩

end ShaderVariants.Directive
