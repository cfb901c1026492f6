import ShaderVariants.Proofs.Comment.Coverage
import ShaderVariants.Proofs.Keyword.Index

/-!
A line break separates what stands above it from what stands below.

Only a block comment reaches over a line break.  When every one above the line break has ended
there, the text below is read as if it stood alone, whatever else the text above breaks off in:
a line comment, half a marker, a directive.
-/
namespace ShaderVariants.Comment

open Text

variable {mode : Mode} {front text : Text} {offset : Nat} {spans all : List Span}

/-- Whether one of the comments found in a text, which starts at byte `offset`, ends with the text
for want of a marker. -/
def LeftOpen (offset : Nat) (text : Text) (spans : List Span) : Prop :=
  ∃ front body, text = front ++ (opening ++ body) ∧ ¬ closing <:+: body ∧
    ⟨offset + size front, offset + size text⟩ ∈ spans

theorem LeftOpen.prepend (left_open : LeftOpen (offset + size front) text spans)
    (among : spans ⊆ all) : LeftOpen offset (front ++ text) all := by
  obtain ⟨before, body, rfl, endless, found⟩ := left_open
  refine ⟨front ++ before, body, (List.append_assoc _ _ _).symm, endless, ?_⟩
  rw [size_append front before, size_append front, ← Nat.add_assoc, ← Nat.add_assoc]
  exact among found

/-- Inside of a block comment without its end, the whole rest of the text belongs to the comment. -/
theorem commentsFrom_of_endless (endless : ¬ closing <:+: text) (start offset : Nat) :
    commentsFrom offset (some start) (lex .blockComment text) = [⟨start, offset + size text⟩] := by
  have found := commentsFrom_lex .blockComment text start offset
  rw [spansAhead, spansInside, cut?_eq_none_iff.mpr endless] at found
  exact found

/-- When the lexer ends inside of a block comment, it either began there and never met the end, or
has found that comment. -/
theorem leftOpen_of_modeBehind (behind : modeBehind mode text = .blockComment)
    (start offset : Nat) :
    (mode = .blockComment ∧ ¬ closing <:+: text) ∨
      LeftOpen offset text
        (commentsFrom offset (if mode = .blockComment then some start else none)
          (lex mode text)) := by
  unfold modeBehind at behind
  fun_induction lex mode text generalizing start offset with
  | case1 mode => exact .inl ⟨behind, by simp [closing]⟩
  | case2 rest ih =>
      have later := (ih behind start (offset + size lineMarker)).resolve_left (by simp)
      exact .inr (later.prepend (List.Subset.refl _))
  | case3 rest ih =>
      obtain ⟨-, endless⟩ | later := ih behind offset (offset + size opening)
      · refine .inr ⟨[], rest, rfl, endless, ?_⟩
        show _ ∈ commentsFrom (offset + size opening) (some offset) (lex .blockComment rest)
        rw [commentsFrom_of_endless endless, List.mem_singleton, Nat.add_assoc, ← size_append]
        rfl
      · exact .inr (later.prepend (List.Subset.refl _))
  | case4 c rest noLine noBlock ih =>
      have later := (ih behind start (offset + size [c])).resolve_left (by simp)
      exact .inr (later.prepend (List.Subset.refl _))
  | case5 rest ih =>
      have later := (ih behind start (offset + size ['\n'])).resolve_left (by simp)
      exact .inr (later.prepend (List.Subset.refl _))
  | case6 c rest inside ih =>
      have later := (ih behind start (offset + size [c])).resolve_left (by simp)
      exact .inr (later.prepend (List.Subset.refl _))
  | case7 rest ih =>
      have later := (ih behind start (offset + size closing)).resolve_left (by simp)
      exact .inr (later.prepend (List.subset_cons_self _ _))
  | case8 c rest inside ih =>
      obtain ⟨-, endless⟩ | later := ih behind start (offset + size [c])
      · refine .inl ⟨rfl, fun ended => ?_⟩
        rcases List.infix_cons_iff.mp ended with here | below
        · exact not_prefix_of_apart inside here
        · exact endless below
      · exact .inr (later.prepend (List.Subset.refl _))

/-- If every block comment ends with its own marker, the text does not break off inside of one. -/
theorem modeBehind_of_terminated (terminated : ∀ span ∈ Comment.spans text, Terminated text span) :
    modeBehind .code text ≠ .blockComment := by
  intro behind
  obtain ⟨front, body, whole, endless, found⟩ :=
    (leftOpen_of_modeBehind behind 0 0).resolve_left (by simp)
  rw [if_neg (by decide), ← comments, ← spans_eq_comments] at found
  obtain ⟨before, inside, rest, ended, covered⟩ := terminated _ found
  have begins : size front = size before := by
    rw [← Nat.zero_add (size front)]
    exact congrArg Span.start covered
  have same : front = before := eq_of_append_of_size (whole.symm.trans ended) begins
  rw [whole, same, List.append_cancel_left_eq, List.append_cancel_left_eq] at ended
  exact endless ⟨inside, rest, by rw [ended, List.append_assoc]⟩

theorem strip_append_break (terminated : ∀ span ∈ Comment.spans front, Terminated front span)
    (back : Text) : strip (front ++ '\n' :: back) = strip front ++ '\n' :: strip back := by
  have outside := modeBehind_of_terminated terminated
  simp only [strip_eq_remainder]
  rw [remainder_append_of_parted (parted_break front back), remainder_break outside]

end ShaderVariants.Comment

namespace ShaderVariants.Keyword

open Text
open Comment (Terminated)

/-- Behind a text whose block comments have all ended, a line break makes a new beginning: what
stands below it is indexed with the vocabulary that the text above leaves. -/
theorem index_append_break {front : Text}
    (terminated : ∀ span ∈ Comment.spans front, Terminated front span) (back : Text)
    (known : Vocabulary) :
    index (front ++ '\n' :: back) known =
      let first := index front known
      let second := index back first.2
      (first.1 ++ second.1, second.2) := by
  simp only [index_eq_declarations]
  rw [Comment.strip_append_break terminated, declarations_append_break]

theorem index_append_break_of_lineComment :
    let front : Text := "/* A */#pragma multi_compile A B // /*".toList
    let back : Text := "*/#pragma shader_feature C".toList
    (∀ span ∈ Comment.spans front, Terminated front span) ∧
      index (front ++ '\n' :: back) .empty =
        (let first := index front .empty
         let second := index back first.2
         (first.1 ++ second.1, second.2)) ∧
      (index (front ++ '\n' :: back) .empty).2.words = ["A", "B", "C"] := by
  intro front back
  have seen : Comment.comments front = [⟨0, 7⟩] ∧
      (declarations (Comment.remainder .code (front ++ '\n' :: back)) .empty).2.words =
        ["A", "B", "C"] := by decide
  have terminated : ∀ span ∈ Comment.spans front, Terminated front span := by
    rw [Comment.spans_eq_comments, seen.1, List.forall_mem_singleton]
    exact ⟨[], " A ".toList, "#pragma multi_compile A B // /*".toList, by rfl, by rfl⟩
  refine ⟨terminated, index_append_break terminated back .empty, ?_⟩
  rw [index_eq_declarations, Comment.strip_eq_remainder]
  exact seen.2

end ShaderVariants.Keyword
