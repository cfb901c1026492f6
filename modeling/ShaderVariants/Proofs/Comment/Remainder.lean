import ShaderVariants.Proofs.Comment.Lines

/-!
Reading again what is left of a text without its block comments.

The lexer meets the lexemes that were left, and no others (`lex_remainder`).  Nothing can be put
together where a comment was taken out, since the lexer never passes a `/` in code without a look at
the character behind it.
-/
namespace ShaderVariants.Comment

variable {rest : Text} {second c : Char}

/-- What the lexer is inside of in what is left, where it was inside of a mode in the whole text. -/
def Mode.outer : Mode → Mode
  | .blockComment => .code
  | mode => mode

/-- Only a comment can keep the first character of a text from being left. -/
theorem head?_remainder (plain : rest.head? ≠ some '/') :
    (remainder .code rest).head? = rest.head? := by
  cases rest with
  | nil => rfl
  | cons c rest =>
      have solid : c ≠ '/' := by simpa using plain
      rw [remainder, lex]
      · rfl
      · exact fun _ same _ => solid same
      · exact fun _ same _ => solid same

theorem apart_remainder (noLine : ∀ tail, c = '/' → rest = '/' :: tail → False)
    (apart : ∀ tail, c = '/' → rest = second :: tail → False) :
    ∀ tail, c = '/' → remainder .code rest = second :: tail → False := by
  intro tail slash whole
  have plain : rest.head? ≠ some '/' := by
    intro starts
    obtain ⟨below, same⟩ := List.head?_eq_some_iff.mp starts
    exact noLine below slash same
  have starts : rest.head? = some second := by
    rw [← head?_remainder plain, whole]
    rfl
  obtain ⟨below, same⟩ := List.head?_eq_some_iff.mp starts
  exact apart below slash same

theorem lex_remainder (mode : Mode) (text : Text) :
    lex mode.outer (remainder mode text) =
      (lex mode text).filter fun lexeme => lexeme.mode ≠ .blockComment := by
  unfold remainder
  fun_induction lex mode text with
  | case1 mode => cases mode <;> rfl
  | case2 rest ih => exact congrArg (.lineOpening :: ·) ih
  | case3 rest ih => exact ih
  | case4 c rest noLine noBlock ih =>
      show lex .code (c :: remainder .code rest) = .code c :: _
      rw [lex]
      · exact congrArg (.code c :: ·) ih
      · exact apart_remainder noLine noLine
      · exact apart_remainder noLine noBlock
  | case5 rest ih => exact congrArg (.code '\n' :: ·) ih
  | case6 c rest inside ih =>
      show lex .lineComment (c :: remainder .lineComment rest) = .lineBody c :: _
      rw [lex]
      · exact congrArg (.lineBody c :: ·) ih
      · exact inside
  | case7 rest ih => exact ih
  | case8 c rest inside ih => exact ih

theorem commentsFrom_of_none {lexemes : List Lexeme} (offset : Nat)
    (none_left : ∀ lexeme ∈ lexemes, lexeme.mode ≠ .blockComment) :
    commentsFrom offset none lexemes = [] := by
  induction lexemes generalizing offset with
  | nil => rfl
  | cons lexeme rest ih =>
      rw [List.forall_mem_cons] at none_left
      cases lexeme with
      | blockOpening => exact absurd rfl none_left.1
      | code c => exact ih _ none_left.2
      | lineOpening => exact ih _ none_left.2
      | lineBody c => exact ih _ none_left.2
      | blockBody c => exact ih _ none_left.2
      | blockClosing => exact ih _ none_left.2

/-- Without its block comments a text has none, not even one put together from what stood around
them, and they can be left out only once: what is left is read as it was read in the whole text. -/
theorem spans_strip (text : Text) :
    lex .code (strip text) =
        (lex .code text).filter (fun lexeme => lexeme.mode ≠ .blockComment) ∧
      spans (strip text) = [] ∧ strip (strip text) = strip text := by
  have again : lex .code (strip text) =
      (lex .code text).filter fun lexeme => lexeme.mode ≠ .blockComment := by
    rw [strip_eq_remainder]
    exact lex_remainder .code text
  have none_left : spans (strip text) = [] := by
    rw [spans_eq_comments, comments, again]
    exact commentsFrom_of_none 0 fun lexeme member => by simpa using (List.mem_filter.mp member).2
  refine ⟨again, none_left, ?_⟩
  rw [strip, none_left, without]

example : strip "a/ /*x*//*y*// b //*/*z*/".toList = "a/ / b //*/*z*/".toList := by
  rw [strip_eq_remainder]
  decide

end ShaderVariants.Comment
