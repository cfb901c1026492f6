import ShaderVariants.Proofs.Comment.Replacement
import ShaderVariants.Proofs.Keyword.Index

/-!
What comments say does not count.

Of a block comment nothing is left to index.  A line comment is left as it is, but a directive in it
is hidden and one in front of it is read up to the `//` (`ofLine?_lineMarker`).
-/
namespace ShaderVariants.Keyword

open Text
open Comment (lineMarker Recommented)

variable {line body tail left text other : Text} {known : Vocabulary}

/-- Whether a line with `//` in it has a directive, and which one up to the `//`, does not depend on
what stands behind that. -/
theorem ofLine?_lineMarker (unbroken : '\n' ∉ line) :
    ∃ directive?, ∀ body : Text, '\n' ∉ body →
      (Directive.ofLine? (line ++ (lineMarker ++ body))).map (upTo lineMarker) = directive? := by
  have first {body : Text} (clean : '\n' ∉ body) :
      firstLine (line ++ (lineMarker ++ body)) = line ++ (lineMarker ++ body) :=
    firstLine_of_unbroken (by simp [unbroken, clean, lineMarker])
  cases found : cut? Directive.marker line with
  | some parts =>
      obtain ⟨before, after⟩ := parts
      refine ⟨if Comment.hides before '#' then none
        else some (upTo lineMarker (Directive.marker ++ after ++ lineMarker)), fun body clean => ?_⟩
      have longer := cut?_append_of_found found (lineMarker ++ body)
      rw [Directive.ofLine?, Directive.occurrence?, first clean, longer]
      have trimmed : trimEnd (· = '\r') (Directive.marker ++ (after ++ (lineMarker ++ body))) =
          Directive.marker ++ after ++ (lineMarker ++ trimEnd (· = '\r') body) := by
        have kept := trimEnd_append_cons (· = '\r') (c := '/') rfl
          (Directive.marker ++ after ++ ['/']) body
        simpa [lineMarker] using kept
      dsimp only
      split
      · rfl
      · rw [Option.map_some, Option.map_some, trimmed, upTo_append_marker]
  | none =>
      -- A marker can only stand behind the `//` then, and there it is hidden.
      refine ⟨none, fun body clean => ?_⟩
      have behind := cut?_append_cons (c := '/') (by decide) (cut?_eq_none_iff.mp found)
        ('/' :: body)
      rw [cut?_cons (by simp [Directive.marker]), cut?_cons (by simp [Directive.marker])] at behind
      have whole : line ++ (lineMarker ++ body) = line ++ '/' :: '/' :: body := rfl
      rw [Directive.ofLine?, Directive.occurrence?, first clean, whole, behind]
      cases cut? Directive.marker body with
      | none => rfl
      | some parts =>
          obtain ⟨before, after⟩ := parts
          have hidden : Comment.hides (line ++ '/' :: '/' :: before) '#' = true := by
            rw [Comment.hides, mentions_iff]
            exact ⟨line, before ++ ['#'], by simp [lineMarker]⟩
          simp [hidden]

theorem groupsOfLines_congr {lines others : List Text}
    (same : lines.map (upTo lineMarker) = others.map (upTo lineMarker)) (known : Vocabulary) :
    groupsOfLines known lines = groupsOfLines known others := by
  induction lines generalizing others known with
  | nil => rw [List.map_eq_nil_iff.mp same.symm]
  | cons line lines ih =>
      obtain ⟨other, below, rfl, first, later⟩ := List.map_eq_cons_iff.mp same.symm
      have here : Group.ofLine? line = Group.ofLine? other := by
        funext known
        rw [Group.ofLine?, Group.ofLine?, first]
      rw [groupsOfLines, groupsOfLines, here]
      simp only [ih later.symm]

theorem filterMap_ofLine?_append (ended : tail = [] ∨ ∃ below, tail = '\n' :: below) :
    ∃ below, ∀ line : Text, '\n' ∉ line → line ≠ [] →
      (lines (line ++ tail)).filterMap Directive.ofLine? =
        (Directive.ofLine? line).toList ++ below := by
  rcases ended with rfl | ⟨below, rfl⟩
  · refine ⟨[], fun line unbroken nonempty => ?_⟩
    rw [List.append_nil, lines_of_unbroken unbroken nonempty, List.filterMap_cons,
      List.filterMap_nil]
    cases Directive.ofLine? line <;> rfl
  · refine ⟨(lines below).filterMap Directive.ofLine?, fun line unbroken _ => ?_⟩
    rw [lines_cons_line unbroken, List.filterMap_cons, Directive.ofLine?_concat unbroken]
    cases Directive.ofLine? line <;> rfl

/-- What stands behind `//` up to the end of the line declares nothing. -/
theorem declarations_lineMarker (ended : tail = [] ∨ ∃ below, tail = '\n' :: below)
    (clean : '\n' ∉ body) (other_clean : '\n' ∉ other) (left : Text) (known : Vocabulary) :
    declarations (left ++ (lineMarker ++ (other ++ tail))) known =
      declarations (left ++ (lineMarker ++ (body ++ tail))) known := by
  -- Only the last line of `left` has a part in the line with the `//`.
  induction left using lines_induction generalizing known with
  | last line unbroken =>
      obtain ⟨directive?, reads⟩ := ofLine?_lineMarker unbroken
      obtain ⟨below, split⟩ := filterMap_ofLine?_append ended
      have read {said : Text} (clean : '\n' ∉ said) :
          ((lines (line ++ (lineMarker ++ (said ++ tail)))).filterMap Directive.ofLine?).map
              (upTo lineMarker) = directive?.toList ++ below.map (upTo lineMarker) := by
        have whole : line ++ (lineMarker ++ (said ++ tail)) =
            line ++ (lineMarker ++ said) ++ tail := by simp only [List.append_assoc]
        rw [whole, split _ (by simp [unbroken, clean, lineMarker]) (by simp [lineMarker]),
          List.map_append, ← reads said clean]
        cases Directive.ofLine? (line ++ (lineMarker ++ said)) <;> rfl
      exact groupsOfLines_congr ((read other_clean).trans (read clean).symm) known
  | next line rest unbroken ih =>
      have split (behind : Text) :
          line ++ '\n' :: rest ++ behind = (line ++ ['\n']) ++ (rest ++ behind) := by simp
      simp only [split, declarations_append (closed_concat line), ih]

/-- What is declared, and the keywords that are recorded, do not depend on what a comment says. -/
theorem index_of_recommented (recommented : Recommented text other) (known : Vocabulary) :
    index other known = index text known := by
  rw [index_eq_declarations, index_eq_declarations]
  rcases Comment.strip_of_recommented recommented with
    same | ⟨left, body, said, rest, clean, said_clean, ended, text_left, other_left⟩
  · rw [same]
  · rw [text_left, other_left]
    exact declarations_lineMarker ended clean said_clean left known

theorem index_of_recommented_pragmas :
    let around (said : Text) : Text := "#pragma multi_compile A ".toList ++
      (Comment.opening ++ (said ++ (Comment.closing ++ "B // C\n".toList)))
    let before (said : Text) : Text := "#pragma multi_compile A B ".toList ++
      (lineMarker ++ (said ++ "\n".toList))
    let inside : Text := "\n#pragma multi_compile D // /* *".toList
    let behind : Text := "/* #pragma multi_compile D".toList
    Recommented (around "x".toList) (around inside) ∧
      index (around inside) .empty = index (around "x".toList) .empty ∧
      Recommented (before " C".toList) (before behind) ∧
      index (before behind) .empty = index (before " C".toList) .empty ∧
      (index (around inside) .empty).2.words = ["A", "B"] := by
  intro around before inside behind
  have block : Recommented (around "x".toList) (around inside) := by
    refine .block ?_ ?_
    · rw [Comment.spans_eq_comments]
      decide +kernel
    · decide +kernel
  have line : Recommented (before " C".toList) (before behind) := by
    refine .line ⟨(Comment.lex .code (before " C".toList)).take 26,
      (Comment.lex .code (before " C".toList)).drop 27, ?_, ?_⟩ ?_ (.inr ⟨[], rfl⟩) ?_
    · decide +kernel
    · decide +kernel
    · decide +kernel
    · decide +kernel
  refine ⟨block, index_of_recommented block .empty, line, index_of_recommented line .empty, ?_⟩
  decide +kernel

end ShaderVariants.Keyword
