import ShaderVariants.Proofs.Comment.Coverage
import ShaderVariants.Proofs.Comment.Lookback

/-!
Block comments by byte offsets, with every cut checked.

`spansBySlices?` and `stripBySlices?` go over the text with byte offsets alone, and give up at a cut
that the text does not allow: past its end, inside a character, or backwards.  They never give up,
and answer what the search and `strip` answer.
-/
namespace ShaderVariants.Comment

open Text

/-- Whether a line comment begins on the line of byte `position`, neither before byte `floor` nor
behind `position`. -/
def hiddenBySlices? (text : Text) (position floor : Nat) : Option Bool :=
  (slice? 0 position text).bind fun front =>
    let start := max (size front - size (lastLine front)) floor
    let stop := min (position + 1) (size text)
    (slice? start stop text).map (mentions lineMarker)

theorem lt_of_slice? {text ahead before body : Text} {cursor : Nat}
    (looked : slice? cursor (size text) text = some ahead)
    (found : cut? opening ahead = some (before, body)) : cursor < size text := by
  obtain ⟨front, rest, -, start, stop⟩ := slice?_eq_some_iff.mp looked
  have length := congrArg size (eq_append_of_cut? found)
  have marker : size opening = 2 := rfl
  simp only [size_append] at length
  omega

/-- Where the comment ends whose body begins at byte `inner`. -/
def stopOf (text : Text) (inner : Nat) (body : Text) : Nat :=
  match cut? closing body with
  | none => size text
  | some (inside, _) => inner + size inside + size closing

theorem lt_stopOf {text : Text} {cursor inner : Nat} (ahead : cursor < size text)
    (entered : cursor < inner) (body : Text) : cursor < stopOf text inner body := by
  unfold stopOf
  split
  · exact ahead
  · omega

/-- The block comments from byte `cursor` on; the last one before it ends at byte `floor`. -/
def spansBySlices? (text : Text) (floor cursor : Nat) : Option (List Span) :=
  match _ : slice? cursor (size text) text with
  | none => none
  | some ahead =>
      match _ : cut? opening ahead with
      | none => some []
      | some (before, _) =>
          let start := cursor + size before
          let inner := start + size opening
          match hiddenBySlices? text start floor with
          | none => none
          | some true => spansBySlices? text floor inner
          | some false =>
              match slice? inner (size text) text with
              | none => none
              | some body =>
                  let stop := stopOf text inner body
                  (spansBySlices? text stop stop).map (⟨start, stop⟩ :: ·)
termination_by size text - cursor
decreasing_by
  all_goals
    have marker : size opening = 2 := rfl
    have ahead := lt_of_slice? ‹slice? cursor _ _ = _› ‹cut? opening _ = _›
  · omega
  · have later := lt_stopOf ahead (by omega : cursor < cursor + size before + size opening) ‹Text›
    omega

/-- What is left of the text from byte `start` on without the bytes of the given spans. -/
def stripBySlices? (text : Text) (start : Nat) : List Span → Option Text
  | [] => slice? start (size text) text
  | span :: later =>
      (slice? start span.start text).bind fun kept =>
        (stripBySlices? text span.stop later).map (kept ++ ·)

variable {text front seen ahead before body : Text} {floor cursor : Nat}

theorem hiddenBySlices?_eq (front seen rest : Text) {c : Char} (narrow : c.utf8Size = 1) :
    hiddenBySlices? (front ++ (seen ++ c :: rest)) (size front + size seen) (size front) =
      some (hides (lastLine seen) c) := by
  obtain ⟨above, split, start, stop⟩ := lookback_bounds front seen rest narrow
  have passed : slice? 0 (size front + size seen) (front ++ (seen ++ c :: rest)) =
      some (front ++ seen) :=
    slice?_eq_some_iff.mpr ⟨[], c :: rest, by simp, rfl, by rw [size_append]; simp [size_nil]⟩
  rw [hiddenBySlices?, passed, Option.bind_some]
  dsimp only
  rw [start, stop, split, slice?_append]
  rfl

theorem spansBySlices?_of_absent (looked : slice? cursor (size text) text = some ahead)
    (absent : cut? opening ahead = none) : spansBySlices? text floor cursor = some [] := by
  rw [spansBySlices?]
  split
  · next refused => simp [looked] at refused
  · next again =>
      cases looked.symm.trans again
      split
      · rfl
      · next found => simp [absent] at found

theorem spansBySlices?_of_hidden (looked : slice? cursor (size text) text = some ahead)
    (found : cut? opening ahead = some (before, body))
    (hidden : hiddenBySlices? text (cursor + size before) floor = some true) :
    spansBySlices? text floor cursor =
      spansBySlices? text floor (cursor + size before + size opening) := by
  rw [spansBySlices?]
  split
  · next refused => simp [looked] at refused
  · next again =>
      cases looked.symm.trans again
      split
      · next absent => simp [absent] at found
      · next again =>
          cases found.symm.trans again
          simp only [hidden]

theorem spansBySlices?_of_live (looked : slice? cursor (size text) text = some ahead)
    (found : cut? opening ahead = some (before, body))
    (live : hiddenBySlices? text (cursor + size before) floor = some false)
    (entered : slice? (cursor + size before + size opening) (size text) text = some body)
    {stop : Nat} (ends : stopOf text (cursor + size before + size opening) body = stop) :
    spansBySlices? text floor cursor =
      (spansBySlices? text stop stop).map (⟨cursor + size before, stop⟩ :: ·) := by
  rw [spansBySlices?]
  split
  · next refused => simp [looked] at refused
  · next again =>
      cases looked.symm.trans again
      split
      · next absent => simp [absent] at found
      · next again =>
          cases found.symm.trans again
          simp only [live, entered, ends]

namespace Stands

theorem slice?_ahead (stands : Stands text floor cursor front seen ahead) :
    slice? cursor (size text) text = some ahead := by
  have start : cursor = size (front ++ seen) := by rw [stands.atCursor, size_append]
  refine slice?_eq_some_iff.mpr ⟨front ++ seen, [], ?_, start, ?_⟩
  · rw [stands.split, List.append_nil, List.append_assoc]
  · rw [← start, stands.size_eq]

theorem hiddenBySlices?_hiddenAt (stands : Stands text floor cursor front seen ahead)
    (found : cut? opening ahead = some (before, body)) :
    hiddenBySlices? text (cursor + size before) floor =
      some (hiddenAt text (cursor + size before) floor) := by
  have whole : text = front ++ ((seen ++ before) ++ '/' :: '*' :: body) := by
    rw [stands.split, eq_append_of_cut? found]
    simp [opening]
  rw [stands.hiddenAt_iff found, ← hiddenBySlices?_eq front (seen ++ before) ('*' :: body) rfl,
    ← whole, size_append, stands.atCursor, stands.atFloor, Nat.add_assoc]

end Stands

/-- The search by slices never has to give up. -/
theorem spansBySlices?_eq (stands : Stands text floor cursor front seen ahead) :
    spansBySlices? text floor cursor = some (spansFromCursor text floor cursor) := by
  fun_induction spansFromCursor text floor cursor generalizing front seen ahead with
  | case1 floor cursor absent =>
      rw [stands.dropBytes_eq] at absent
      exact spansBySlices?_of_absent stands.slice?_ahead absent
  | case2 floor cursor before body found start inner =>
      rename_i hidden ih
      rw [stands.dropBytes_eq] at found
      have looked := (stands.hiddenBySlices?_hiddenAt found).trans (congrArg some hidden)
      rw [spansBySlices?_of_hidden stands.slice?_ahead found looked]
      exact ih (stands.behindMarker found)
  | case3 floor cursor before body found start inner live =>
      rename_i absent ih
      rw [stands.dropBytes_eq] at found
      have looked := (stands.hiddenBySlices?_hiddenAt found).trans
        (congrArg some (Bool.not_eq_true _ ▸ live))
      have entered := stands.behindMarker found
      rw [entered.dropBytes_eq] at absent
      have atEnd : Stands text (size text) (size text) text [] [] := ⟨by simp, rfl, rfl⟩
      rw [spansBySlices?_of_live stands.slice?_ahead found looked entered.slice?_ahead
        (by rw [stopOf, absent]), ih atEnd]
      rfl
  | case4 floor cursor before body found start inner live inside after =>
      rename_i closes stop ih
      rw [stands.dropBytes_eq] at found
      have looked := (stands.hiddenBySlices?_hiddenAt found).trans
        (congrArg some (Bool.not_eq_true _ ▸ live))
      have entered := stands.behindMarker found
      rw [entered.dropBytes_eq] at closes
      rw [spansBySlices?_of_live stands.slice?_ahead found looked entered.slice?_ahead
        (by rw [stopOf, closes]), ih (entered.behindComment closes)]
      rfl

theorem Covers.stripBySlices?_eq {offset : Nat} {spans : List Span}
    (covers : Covers offset text spans) (start : offset = size front) :
    stripBySlices? (front ++ text) offset spans = some (without offset spans text) := by
  induction covers generalizing front with
  | plain offset text =>
      refine slice?_eq_some_iff.mpr ⟨front, [], ?_, start, ?_⟩
      · rw [List.append_nil, without]
      · rw [size_append, start, without]
  | @comment rest later offset before covered begins ended behind ih =>
      have kept : slice? offset (offset + size before) (front ++ (before ++ (covered ++ rest))) =
          some before := by
        rw [start]
        exact slice?_append front before _
      have whole : front ++ (before ++ (covered ++ rest)) =
          (front ++ before ++ covered) ++ rest := by
        simp only [List.append_assoc]
      rw [stripBySlices?, kept, Option.bind_some, without_comment, whole, ih]
      · rfl
      · simp only [start, size_append]

/-- The spans of a text are the places of comments in it, in order and apart, of which only the last
may lack its end, and what is left without them are the bytes that none of them covers.  No cut that
is made on the way is inside a character. -/
theorem spans_divide (text : Text) :
    (∀ span ∈ spans text, ∃ front covered rest, text = front ++ (covered ++ rest) ∧
      span = ⟨size front, size front + size covered⟩ ∧ 2 ≤ size covered) ∧
    (spans text).Pairwise (fun earlier later => earlier.stop ≤ later.start) ∧
    (∀ span ∈ (spans text).dropLast, Terminated text span) ∧
    Utf8.encode (strip text) =
      ((Utf8.encode text).zipIdx.filter fun (_, place) => outside (spans text) place).map
        Prod.fst ∧
    ((spans text).map Span.length).sum ≤ size text ∧
    size (strip text) = size text - ((spans text).map Span.length).sum ∧
    spansBySlices? text 0 0 = some (spans text) ∧
    stripBySlices? text 0 (spans text) = some (strip text) := by
  have covers : Covers 0 text (spans text) := covers_spansFrom 0 text
  have stands : Stands text 0 0 [] [] text := ⟨rfl, rfl, rfl⟩
  have length := covers.size_without
  refine ⟨?_, covers.pairwise, ?_, covers.encode_without, ?_, ?_, ?_, ?_⟩
  · intro span member
    obtain ⟨front, covered, rest, whole, rfl, least⟩ := covers.part member
    exact ⟨front, covered, rest, whole, by rw [Nat.zero_add], least⟩
  · intro span member
    obtain ⟨front, body, rest, whole, rfl⟩ := covers.terminated member
    exact ⟨front, body, rest, whole, by rw [Nat.zero_add]⟩
  · omega
  · rw [strip]
    omega
  · rw [spansBySlices?_eq stands, spansFromCursor_eq stands (.inl ⟨rfl, rfl⟩)]
    rfl
  · show stripBySlices? ([] ++ text) 0 (spans text) = some (strip text)
    exact covers.stripBySlices?_eq rfl

end ShaderVariants.Comment
