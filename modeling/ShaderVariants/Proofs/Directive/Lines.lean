import ShaderVariants.Proofs.Directive.Reach
import ShaderVariants.Proofs.Text.Lines

/-!
The live directives of a text, line by line.

The search leaves a line at its first marker, whether that is hidden or not, so each line is read as
if it stood alone (`live_eq_occurrencesFrom`).
-/
namespace ShaderVariants.Directive

open Text

variable {line rest text passed ahead before after : Text} {offset : Nat}

/-- The directive on a line that starts at byte `offset`: its first marker, unless a line comment
hides that. -/
def occurrence? (offset : Nat) (line : Text) : Option Occurrence :=
  match cut? marker (firstLine line) with
  | none => none
  | some (before, after) =>
      if Comment.hides before '#' then none
      else some ⟨offset + size before, trimEnd (· = '\r') (marker ++ after)⟩

/-- The directives on lines that follow each other from byte `offset` on. -/
def occurrencesFrom (offset : Nat) : List Text → List Occurrence
  | [] => []
  | line :: below =>
      (occurrence? offset line).toList ++ occurrencesFrom (offset + size line) below

/-- The text of the directive on a line. -/
def ofLine? (line : Text) : Option Text :=
  (occurrence? 0 line).map (·.line)

theorem line_occurrence? (offset : Nat) (line : Text) :
    (occurrence? offset line).map (·.line) = ofLine? line := by
  unfold ofLine? occurrence?
  split
  · rfl
  · split <;> rfl

theorem line_occurrencesFrom (offset : Nat) (lines : List Text) :
    (occurrencesFrom offset lines).map (·.line) = lines.filterMap ofLine? := by
  induction lines generalizing offset with
  | nil => rfl
  | cons line below ih =>
      rw [occurrencesFrom, List.map_append, ih, List.filterMap_cons, ← line_occurrence? offset]
      cases occurrence? offset line <;> rfl

theorem liveFrom_of_reach_none (absent : reach [] text = none) : liveFrom offset text = [] := by
  rw [liveFrom]
  split
  · rfl
  · next found => simp [absent] at found

theorem liveFrom_of_reach (found : reach [] text = some (passed, ahead)) :
    liveFrom offset text =
      ⟨offset + size passed, trimEnd (· = '\r') (firstLine ahead)⟩ ::
        match fromLineEnd ahead with
        | [] => []
        | _ :: next => liveFrom (offset + size passed + size (firstLine ahead) + 1) next := by
  rw [liveFrom]
  split
  · next absent => simp [absent] at found
  · next again =>
      rw [found] at again
      cases again
      refine congrArg _ ?_
      split <;> simp_all

theorem reach_of_absent (absent : cut? marker text = none) : reach line text = none := by
  rw [reach]
  split
  · rfl
  · next found => simp [absent] at found

/-- A line is passed over if the search looks for the next marker below it. -/
theorem reach_below (skipped : cut? marker (line ++ '\n' :: rest) =
      (cut? marker rest).map fun (before, after) => (line ++ '\n' :: before, after)) :
    reach [] (line ++ '\n' :: rest) =
      (reach [] rest).map fun (passed, live) => (line ++ '\n' :: passed, live) := by
  cases found : cut? marker rest with
  | none =>
      rw [found] at skipped
      rw [reach_of_absent found, reach_of_absent skipped]
      rfl
  | some parts =>
      obtain ⟨before, after⟩ := parts
      have seen : lastLine ([] ++ (line ++ '\n' :: before)) = lastLine ([] ++ before) :=
        lastLine_break line before
      rw [found] at skipped
      cases hidden : Comment.hides (lastLine ([] ++ before)) '#' with
      | false =>
          rw [reach_of_live found hidden, reach_of_live skipped (by rw [seen, hidden])]
          rfl
      | true =>
          rw [reach_of_hidden found hidden, reach_of_hidden skipped (by rw [seen, hidden]),
            Option.map_map]
          simp only [List.append_assoc, List.cons_append, Function.comp_def]

theorem occurrence?_concat (unbroken : '\n' ∉ line) :
    occurrence? offset (line ++ ['\n']) = occurrence? offset line := by
  rw [occurrence?, occurrence?, firstLine_append unbroken, firstLine_of_unbroken unbroken]
  simp [firstLine]

theorem ofLine?_concat (unbroken : '\n' ∉ line) :
    ofLine? (line ++ ['\n']) = ofLine? line := by
  rw [ofLine?, occurrence?_concat unbroken, ofLine?]

/-- What makes a line one without a directive. -/
theorem occurrence?_none (unbroken : '\n' ∉ line) (absent : occurrence? offset line = none) :
    cut? marker line = none ∨
      ∃ before after, cut? marker line = some (before, after) ∧
        Comment.hides (lastLine ([] ++ before)) '#' = true := by
  rw [occurrence?, firstLine_of_unbroken unbroken] at absent
  cases found : cut? marker line with
  | none => exact .inl rfl
  | some parts =>
      obtain ⟨before, after⟩ := parts
      have before_unbroken : '\n' ∉ before := fun member =>
        unbroken (by simp [eq_append_of_cut? found, member])
      have seen : lastLine ([] ++ before) = before := lastLine_of_unbroken before_unbroken
      have hidden : Comment.hides before '#' = true := by simpa [found] using absent
      exact .inr ⟨before, after, rfl, by rw [seen, hidden]⟩

/-- The search goes on below a line without a directive. -/
theorem reach_pass (unbroken : '\n' ∉ line) (absent : occurrence? offset line = none)
    (rest : Text) :
    reach [] (line ++ '\n' :: rest) =
      (reach [] rest).map fun (passed, live) => (line ++ '\n' :: passed, live) := by
  have clean : '\n' ∉ marker := by decide
  have ended : cut? marker ('\n' :: rest) =
      (cut? marker rest).map fun (before, after) => ('\n' :: before, after) :=
    cut?_cons (by simp [marker])
  rcases occurrence?_none unbroken absent with missing | ⟨before, after, found, hidden⟩
  · refine reach_below ?_
    rw [cut?_append_cons clean (cut?_eq_none_iff.mp missing), ended, Option.map_map]
    rfl
  · have whole := eq_append_of_cut? found
    have after_unbroken : '\n' ∉ after := fun member => unbroken (by simp [whole, member])
    have below : reach [] ('\n' :: rest) =
        (reach [] rest).map fun (passed, live) => ('\n' :: passed, live) :=
      @reach_below [] rest ended
    rw [reach_of_hidden (cut?_append_of_found found _) hidden, fromLineEnd_append after_unbroken,
      firstLine_append after_unbroken]
    simp [fromLineEnd, firstLine, below, whole, Function.comp_def]

theorem reach_last (unbroken : '\n' ∉ line) (absent : occurrence? offset line = none) :
    reach [] line = none := by
  rcases occurrence?_none unbroken absent with missing | ⟨before, after, found, hidden⟩
  · exact reach_of_absent missing
  · have after_unbroken : '\n' ∉ after := fun member =>
      unbroken (by simp [eq_append_of_cut? found, member])
    rw [reach_of_hidden found hidden, fromLineEnd_of_unbroken after_unbroken, reach_of_absent rfl]
    rfl

/-- The search stops at the directive of a line, whatever follows the line. -/
theorem reach_occurrence (unbroken : '\n' ∉ line) {occurrence : Occurrence}
    (declared : occurrence? offset line = some occurrence) :
    ∃ before after, line = before ++ (marker ++ after) ∧ '\n' ∉ marker ++ after ∧
      occurrence = ⟨offset + size before, trimEnd (· = '\r') (marker ++ after)⟩ ∧
      ∀ tail, reach [] (line ++ tail) = some (before, marker ++ after ++ tail) := by
  rw [occurrence?, firstLine_of_unbroken unbroken] at declared
  cases found : cut? marker line with
  | none => simp [found] at declared
  | some parts =>
      obtain ⟨before, after⟩ := parts
      simp only [found, Option.ite_none_left_eq_some, Bool.not_eq_true, Option.some.injEq]
        at declared
      obtain ⟨live, rfl⟩ := declared
      have whole : line = before ++ (marker ++ after) := by
        rw [eq_append_of_cut? found, List.append_assoc]
      have before_unbroken : '\n' ∉ before := fun member => unbroken (by simp [whole, member])
      have seen : lastLine ([] ++ before) = before := lastLine_of_unbroken before_unbroken
      refine ⟨before, after, whole, fun member => unbroken (by simp [whole, member]), rfl, ?_⟩
      intro tail
      rw [reach_of_live (cut?_append_of_found found tail) (by rw [seen, live]), List.append_assoc]

theorem liveFrom_below (passes : reach [] (line ++ rest) =
      (reach [] rest).map fun (passed, live) => (line ++ passed, live)) :
    liveFrom offset (line ++ rest) = liveFrom (offset + size line) rest := by
  cases found : reach [] rest with
  | none => rw [liveFrom_of_reach_none found, liveFrom_of_reach_none (by rw [passes, found]; rfl)]
  | some parts =>
      obtain ⟨passed, ahead⟩ := parts
      rw [found, Option.map_some] at passes
      rw [liveFrom_of_reach found, liveFrom_of_reach passes]
      simp only [size_append, Nat.add_assoc]

/-- The live directives of a text are those of its lines. -/
theorem liveFrom_eq_occurrencesFrom (offset : Nat) (text : Text) :
    liveFrom offset text = occurrencesFrom offset (lines text) := by
  induction text using lines_induction generalizing offset with
  | last line unbroken =>
      by_cases empty : line = []
      · rw [empty, liveFrom_of_reach_none (reach_of_absent rfl)]
        rfl
      · rw [lines_of_unbroken unbroken empty, occurrencesFrom, occurrencesFrom, List.append_nil]
        cases declared : occurrence? offset line with
        | none => exact liveFrom_of_reach_none (reach_last unbroken declared)
        | some occurrence =>
            obtain ⟨before, after, -, ahead_unbroken, rfl, reached⟩ :=
              reach_occurrence unbroken declared
            have stops := reached []
            rw [List.append_nil, List.append_nil] at stops
            rw [liveFrom_of_reach stops, firstLine_of_unbroken ahead_unbroken,
              fromLineEnd_of_unbroken ahead_unbroken]
            rfl
  | next line rest unbroken ih =>
      have length : size (line ++ ['\n']) = size line + 1 := by rw [size_append]; rfl
      rw [lines_cons_line unbroken, occurrencesFrom, occurrence?_concat unbroken, ← ih]
      cases declared : occurrence? offset line with
      | none =>
          have passes := reach_pass unbroken declared rest
          rw [← List.singleton_append, ← List.append_assoc] at passes ⊢
          refine liveFrom_below (passes.trans ?_)
          simp only [List.append_assoc, List.singleton_append]
      | some occurrence =>
          obtain ⟨before, after, whole, ahead_unbroken, rfl, reached⟩ :=
            reach_occurrence unbroken declared
          have next : offset + size before + size (marker ++ after) + 1 =
              offset + size (line ++ ['\n']) := by
            rw [length, whole, size_append before]
            omega
          rw [liveFrom_of_reach (reached _), firstLine_append ahead_unbroken,
            fromLineEnd_append ahead_unbroken]
          simp [fromLineEnd, firstLine, next]

theorem lines_live (text : Text) :
    (live text).map (·.line) = (lines text).filterMap ofLine? := by
  rw [live, liveFrom_eq_occurrencesFrom, line_occurrencesFrom]

end ShaderVariants.Directive
