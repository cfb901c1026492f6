import ShaderVariants.Proofs.Keyword.Index
import ShaderVariants.Proofs.Variant.Preamble

/-!
What the version line on top of a variant means for the index of its keywords.

Version lines are removed without a look at the comments they are in.  As long as that moves no end
of a comment, the lines that stay are commented out, or not, as before.
-/
namespace ShaderVariants.Preamble

open Text Keyword
open Comment (modeBehind remainder)

variable {mode : Comment.Mode} {front code line tail : Text} {below : List Text}

/-- A version line whose removal moves no end of a block comment and takes away no group: it lies in
a comment that does not end on it, or begins in code, leaves no comment open for the lines below and
declares nothing.  `mode` is what the line begins inside of. -/
inductive Removable : (mode : Comment.Mode) → (line : Text) → (below : List Text) → Prop where
  | commented {line : Text} {below : List Text} (inside : ¬ Comment.closing <:+: line) :
      Removable .blockComment line below
  | apart {line : Text} {below : List Text}
      (ended : modeBehind .code line ≠ .blockComment ∨ below = [])
      (silent : (index line .empty).1 = []) : Removable .code line below

/-- Every version line of a code that begins inside of `mode` is removable. -/
def AllRemovable (mode : Comment.Mode) (code : Text) : Prop :=
  ∀ above line below, lines code = above ++ line :: below → IsVersionLine line →
    Removable (modeBehind mode above.flatten) line below

theorem AllRemovable.first (removable : AllRemovable mode code)
    (first : lines code = line :: below) (version : IsVersionLine line) :
    Removable mode line below :=
  removable [] line below first version

theorem AllRemovable.rest {rest : Text} (unbroken : '\n' ∉ line)
    (removable : AllRemovable mode (line ++ '\n' :: rest)) :
    AllRemovable (modeBehind mode (line ++ ['\n'])) rest := by
  intro above last below parts version
  have whole : lines (line ++ '\n' :: rest) = ((line ++ ['\n']) :: above) ++ last :: below := by
    rw [lines_cons_line unbroken, parts, List.cons_append]
  have here := removable _ last below whole version
  rwa [List.flatten_cons, Comment.modeBehind_append (closed_concat line)] at here

theorem allRemovable_nil (mode : Comment.Mode) : AllRemovable mode [] := by
  intro above line below parts
  simp [lines] at parts

theorem AllRemovable.cons {rest : Text} (unbroken : '\n' ∉ line)
    (here : IsVersionLine line → Removable mode (line ++ ['\n']) (lines rest))
    (later : AllRemovable (modeBehind mode (line ++ ['\n'])) rest) :
    AllRemovable mode (line ++ '\n' :: rest) := by
  intro above last below parts version
  rw [lines_cons_line unbroken] at parts
  cases above with
  | nil =>
      cases parts
      exact here ((isVersionLine_append_break line []).mp version)
  | cons first above =>
      rw [List.cons_append, List.cons.injEq] at parts
      obtain ⟨rfl, parts⟩ := parts
      rw [List.flatten_cons, Comment.modeBehind_append (closed_concat line)]
      exact later above last below parts version

/-- Without its removable version lines a code declares what it did.  `front` is what is left of the
text above the code; inside of a comment it may end within a line. -/
theorem declarations_remove (front_closed : mode = .code → Closed front)
    (removable : AllRemovable mode code) (known : Vocabulary) :
    declarations (front ++ remainder mode (remove .deciding code)) known =
      declarations (front ++ remainder mode code) known := by
  induction code using lines_induction generalizing mode front with
  | last line unbroken =>
      rw [remove_last unbroken]
      split
      · next version =>
          have nonempty : line ≠ [] := by
            rintro rfl
            cases versionAhead_iff.mpr version
          have nothing : front ++ remainder mode [] = front := List.append_nil front
          rw [nothing]
          cases removable.first (lines_of_unbroken unbroken nonempty) version with
          | commented inside => rw [Comment.remainder_blockComment inside, List.append_nil]
          | apart ended silent =>
              rw [index_eq_declarations, Comment.strip_eq_remainder] at silent
              rw [declarations_append_silent (front_closed rfl) silent]
      · rfl
  | next line rest unbroken ih =>
      have closed : Closed (line ++ ['\n']) := closed_concat line
      have split_line : line ++ '\n' :: rest = (line ++ ['\n']) ++ rest := by
        rw [List.append_assoc, List.singleton_append]
      have ended := Comment.atLineEnd closed (by simp) mode
      have below := removable.rest unbroken
      rw [remove_line unbroken, split_line, Comment.remainder_append closed]
      split
      · next version =>
          have here := removable.first (lines_cons_line unbroken rest)
            ((isVersionLine_append_break line []).mpr version)
          rw [List.nil_append]
          cases here with
          | commented inside =>
              rw [Comment.modeBehind_blockComment inside] at below ⊢
              rw [Comment.remainder_blockComment inside, List.nil_append]
              exact ih front_closed below
          | apart outside silent =>
              rw [index_eq_declarations, Comment.strip_eq_remainder] at silent
              rcases outside with outside | last
              · -- The line above has ended in code, so the next one begins there with or without
                -- this one.
                have in_code := ended.eq_code outside
                rw [in_code] at ended below ⊢
                have front_closed := front_closed rfl
                rw [← List.append_assoc, ← ih (fun _ => front_closed.append ended.closed) below,
                  declarations_drop_silent front_closed ended.closed silent]
              · have empty : rest = [] := by rw [← flatten_lines rest, last, List.flatten_nil]
                subst empty
                have nothing (mode : Comment.Mode) : remainder mode [] = [] := rfl
                rw [remove, nothing, nothing, List.append_nil, List.append_nil,
                  declarations_append_silent (front_closed rfl) silent]
      · rw [Comment.remainder_append closed, ← List.append_assoc, ← List.append_assoc]
        refine ih (fun in_code => ?_) below
        rw [in_code] at ended
        exact (ended.prepend front).closed

/-- A line of `#version` and letters, digits and blanks. -/
def IsPlainVersion (line : Text) : Prop :=
  ∃ tail, line = '#' :: (versionWord ++ tail) ∧ ∀ c ∈ tail, c.isAlphanum = true ∨ c = ' '

theorem not_mem_of_isPlainVersion (plain : IsPlainVersion line) {c : Char}
    (special : c ∉ '#' :: versionWord) (outside : c.isAlphanum = false) (solid : c ≠ ' ') :
    c ∉ line := by
  obtain ⟨tail, rfl, plain_tail⟩ := plain
  rw [← List.cons_append, List.mem_append, not_or]
  refine ⟨special, fun member => ?_⟩
  rcases plain_tail c member with inside | blank
  · simp [outside] at inside
  · exact solid blank

/-- The only `#` of such a line begins no directive that declares keywords. -/
theorem marker_not_infix_of_isPlainVersion (plain : IsPlainVersion line) :
    ¬ Directive.marker <:+: line := by
  obtain ⟨tail, rfl, plain_tail⟩ := plain
  rw [List.infix_cons_iff]
  rintro (starts | inside)
  · have word := (List.cons_prefix_cons.mp starts).2
    have first := (List.cons_prefix_cons.mp word).1
    cases first
  · have hash : '#' ∈ versionWord ++ tail := inside.subset List.mem_cons_self
    rcases List.mem_append.mp hash with in_word | in_tail
    · revert in_word
      decide
    · rcases plain_tail '#' in_tail with alphanumeric | blank
      · cases alphanumeric
      · cases blank

theorem declarations_of_isPlainVersion (plain : IsPlainVersion line) (known : Vocabulary) :
    declarations (line ++ ['\n']) known = ([], known) := by
  have unbroken : '\n' ∉ line :=
    not_mem_of_isPlainVersion plain (by decide) (by decide) (by decide)
  have nothing : Directive.ofLine? (line ++ ['\n']) = none := by
    have absent := cut?_eq_none_iff.mpr (marker_not_infix_of_isPlainVersion plain)
    rw [Directive.ofLine?, Directive.occurrence?_concat unbroken, Directive.occurrence?,
      firstLine_of_unbroken unbroken, absent]
    rfl
  rw [declarations, lines_cons_line unbroken, lines, List.filterMap_cons_none nothing]
  rfl

theorem isPlainVersion_usual : IsPlainVersion "#version 310 es".toList := by
  refine ⟨" 310 es".toList, by decide, fun c member => ?_⟩
  have plain : (" 310 es".toList.all fun c => c.isAlphanum || c == ' ') = true := by
    decide
  simpa using List.all_eq_true.mp plain c member

/-- A new version line changes nothing in the index of a code all of whose version lines are
removable. -/
theorem index_withVersion (plain : IsPlainVersion line) (removable : AllRemovable .code code)
    (known : Vocabulary) : index (withVersion code line) known = index code known := by
  have no_slash : '/' ∉ line ++ ['\n'] := by
    have outside := not_mem_of_isPlainVersion plain (c := '/') (by decide) (by decide) (by decide)
    simp [outside]
  have split_line : withVersion code line = (line ++ ['\n']) ++ remove .deciding code := by
    rw [withVersion, List.append_assoc, List.singleton_append]
  have unchanged := declarations_remove (fun _ => closed_nil) removable known
  rw [List.nil_append, List.nil_append] at unchanged
  rw [index_eq_declarations, index_eq_declarations, Comment.strip_eq_remainder,
    Comment.strip_eq_remainder, split_line, Comment.remainder_append (closed_concat line),
    Comment.remainder_of_plain no_slash, Comment.modeBehind_of_plain no_slash,
    declarations_append (closed_concat line), declarations_of_isPlainVersion plain]
  exact unchanged

theorem index_withVersion_of_commented :
    let code := "/* was".toList ++ '\n' :: ("#version 100".toList ++ '\n' :: ("*/".toList ++ '\n' ::
      ("#version 300 es /* core */".toList ++ '\n' :: ("#pragma multi_compile A B".toList ++
        '\n' :: []))))
    let line := "#version 310 es".toList
    withVersion code line =
        "#version 310 es\n/* was\n*/\n#pragma multi_compile A B\n".toList ∧
      index (withVersion code line) .empty = index code .empty := by
  refine ⟨by decide +kernel, ?_⟩
  refine index_withVersion isPlainVersion_usual ?_ .empty
  refine .cons (by decide +kernel) (absurd · (by decide +kernel)) ?_
  refine .cons (by decide +kernel) (fun _ => .commented (by decide +kernel)) ?_
  refine .cons (by decide +kernel) (absurd · (by decide +kernel)) ?_
  have apart : Removable .code ("#version 300 es /* core */".toList ++ ['\n'])
      ["#pragma multi_compile A B\n".toList] :=
    .apart (.inl (by decide +kernel)) (by decide +kernel)
  refine .cons (by decide +kernel) (fun _ => apart) ?_
  exact .cons (by decide +kernel) (absurd · (by decide +kernel)) (allRemovable_nil _)

/-- Removing a version line can bring commented directives to life, comment out live ones, and take
away one that the line holds itself. -/
theorem index_withVersion_differs :
    let line := "#version 310 es".toList
    let opening := "#version 300 es /*\n#pragma multi_compile A B\n*/".toList
    let closing := "/*\n#version 300 es */\n#pragma multi_compile A B".toList
    let declaring := "#version 300 es #pragma multi_compile A B".toList
    IsPlainVersion line ∧
      (index opening .empty).2.words = [] ∧
      (index (withVersion opening line) .empty).2.words = ["A", "B"] ∧
      (index closing .empty).2.words = ["A", "B"] ∧
      (index (withVersion closing line) .empty).2.words = [] ∧
      (index declaring .empty).2.words = ["A", "B"] ∧
      (index (withVersion declaring line) .empty).2.words = [] := by
  refine ⟨isPlainVersion_usual, ?_⟩
  decide +kernel

end ShaderVariants.Preamble
