import ShaderVariants.Proofs.Comment.Lines

/-!
Texts that differ in what a comment says.

The lexer looks one character ahead at most.  So what it reads up to the beginning of a comment does
not depend on what is in the comment (`lex_behind`), and what it reads behind the comment depends
only on where that ends.
-/
namespace ShaderVariants.Comment

open Text

variable {mode : Mode} {lexeme : Lexeme} {before after : List Lexeme} {offset : Nat}
  {front back text body other rest : Text}

/-- The lexer reads `lexeme` where `front` ends. -/
def Meets (lexeme : Lexeme) (front text : Text) : Prop :=
  ∃ before after, lex .code text = before ++ lexeme :: after ∧
    before.flatMap Lexeme.text = front

/-- One text becomes the other when the body of a block comment with its own end is replaced by a
text that does not end the comment, or what a line comment says up to the end of its line by another
text without a line break. -/
inductive Recommented : Text → Text → Prop where
  | block {front body other rest : Text}
      (live : ⟨size front, size front + size (opening ++ (body ++ closing))⟩ ∈
        spans (front ++ (opening ++ (body ++ (closing ++ rest)))))
      (unended : ¬ closing <:+: other) :
      Recommented (front ++ (opening ++ (body ++ (closing ++ rest))))
        (front ++ (opening ++ (other ++ (closing ++ rest))))
  | line {front body other rest : Text}
      (met : Meets .lineOpening front (front ++ (lineMarker ++ (body ++ rest))))
      (unbroken : '\n' ∉ body) (ended : rest = [] ∨ ∃ below, rest = '\n' :: below)
      (other_unbroken : '\n' ∉ other) :
      Recommented (front ++ (lineMarker ++ (body ++ rest)))
        (front ++ (lineMarker ++ (other ++ rest)))

/-- One move of the lexer depends on the lexeme and on the character behind it. -/
theorem lex_eq_cons (read : lex mode text = lexeme :: after) :
    ∃ rest, text = lexeme.text ++ rest ∧ after = lex lexeme.next rest ∧
      ∀ other : Text, other.head? = rest.head? →
        lex mode (lexeme.text ++ other) = lexeme :: lex lexeme.next other := by
  have apart {first second c : Char} {rest other : Text} (same : other.head? = rest.head?)
      (apart : ∀ tail, c = first → rest = second :: tail → False) :
      ∀ tail, c = first → other = second :: tail → False := by
    intro tail starts whole
    rw [whole, List.head?_cons, eq_comm, List.head?_eq_some_iff] at same
    obtain ⟨below, whole⟩ := same
    exact apart below starts whole
  revert read
  fun_cases lex mode text with
  | case1 mode => exact fun read => nomatch read
  | case2 rest =>
      rintro ⟨⟩
      exact ⟨rest, rfl, rfl, fun other same => rfl⟩
  | case3 rest =>
      rintro ⟨⟩
      exact ⟨rest, rfl, rfl, fun other same => rfl⟩
  | case4 c rest noLine noBlock =>
      rintro ⟨⟩
      -- A `/` that begins no comment here begins none before another text with the same head.
      refine ⟨rest, rfl, rfl, fun other same => ?_⟩
      show lex .code (c :: other) = _
      rw [lex]
      · rfl
      · exact apart same noLine
      · exact apart same noBlock
  | case5 rest =>
      rintro ⟨⟩
      exact ⟨rest, rfl, rfl, fun other same => rfl⟩
  | case6 c rest inside =>
      rintro ⟨⟩
      refine ⟨rest, rfl, rfl, fun other same => ?_⟩
      show lex .lineComment (c :: other) = _
      rw [lex]
      · rfl
      · exact inside
  | case7 rest =>
      rintro ⟨⟩
      exact ⟨rest, rfl, rfl, fun other same => rfl⟩
  | case8 c rest inside =>
      rintro ⟨⟩
      refine ⟨rest, rfl, rfl, fun other same => ?_⟩
      show lex .blockComment (c :: other) = _
      rw [lex]
      · rfl
      · exact apart same inside

/-- What the lexer reads up to a place depends on one character behind it only. -/
theorem lex_front (read : lex mode (front ++ back) = before ++ after)
    (whole : before.flatMap Lexeme.text = front) :
    after = lex (before.foldl (fun _ lexeme => lexeme.next) mode) back ∧
      ∀ other : Text, other.head? = back.head? →
        lex mode (front ++ other) =
          before ++ lex (before.foldl (fun _ lexeme => lexeme.next) mode) other := by
  induction before generalizing mode front with
  | nil =>
      rw [← whole] at read ⊢
      exact ⟨read.symm, fun other same => rfl⟩
  | cons lexeme before ih =>
      obtain ⟨rest, split, later, moves⟩ := lex_eq_cons read
      rw [List.flatMap_cons] at whole
      rw [← whole, List.append_assoc, List.append_cancel_left_eq] at split
      rw [← split] at later moves
      obtain ⟨behind, again⟩ := ih later.symm rfl
      refine ⟨behind, fun other same => ?_⟩
      have ahead : (before.flatMap Lexeme.text ++ other).head? =
          (before.flatMap Lexeme.text ++ back).head? := by
        rw [List.head?_append, List.head?_append, same]
      rw [← whole, List.append_assoc, moves _ ahead, again other same]
      rfl

theorem eq_code_of_opening (opens : lexeme = .lineOpening ∨ lexeme = .blockOpening)
    (read : lex mode text = lexeme :: after) : mode = .code := by
  revert read
  fun_cases lex mode text <;> rcases opens with rfl | rfl <;> rintro ⟨⟩ <;> rfl

/-- The marker that begins a comment is read in code, and what is read before it does not depend on
the comment. -/
theorem lex_behind (opens : lexeme = .lineOpening ∨ lexeme = .blockOpening)
    (met : Meets lexeme front (front ++ (lexeme.text ++ rest))) :
    ∃ before, ∀ other : Text,
      lex .code (front ++ (lexeme.text ++ other)) = before ++ lexeme :: lex lexeme.next other := by
  obtain ⟨before, after, read, whole⟩ := met
  obtain ⟨behind, again⟩ := lex_front read whole
  rw [eq_code_of_opening opens behind.symm] at again
  refine ⟨before, fun other => ?_⟩
  rcases opens with rfl | rfl
  · exact again (lineMarker ++ other) rfl
  · exact again (opening ++ other) rfl

theorem remainder_behind (opens : lexeme = .lineOpening ∨ lexeme = .blockOpening)
    (met : Meets lexeme front (front ++ (lexeme.text ++ rest))) :
    ∃ left : Text, ∀ other : Text,
      remainder .code (front ++ (lexeme.text ++ other)) =
        left ++ ((if lexeme.mode = .blockComment then [] else lexeme.text) ++
          remainder lexeme.next other) := by
  obtain ⟨before, reads⟩ := lex_behind opens met
  refine ⟨before.flatMap fun lexeme =>
    if lexeme.mode = .blockComment then [] else lexeme.text, fun other => ?_⟩
  rw [remainder, reads, List.flatMap_append, List.flatMap_cons]
  rfl

theorem remainder_lineComment (unbroken : '\n' ∉ body)
    (ended : rest = [] ∨ ∃ below, rest = '\n' :: below) :
    remainder .lineComment (body ++ rest) = body ++ remainder .code rest := by
  induction body with
  | nil => rcases ended with rfl | ⟨below, rfl⟩ <;> rfl
  | cons c body ih =>
      simp only [List.mem_cons, not_or] at unbroken
      rw [remainder, List.cons_append, lex]
      · exact congrArg (c :: ·) (ih unbroken.2)
      · exact Ne.symm unbroken.1

theorem remainder_of_closed (closes : cut? closing text = some (body, rest)) :
    remainder .blockComment text = remainder .code rest := by
  induction text generalizing body with
  | nil => cases closes
  | cons c text ih =>
      by_cases ends : closing <+: c :: text
      · obtain ⟨tail, whole⟩ := ends
        rw [← whole, cut?_append] at closes
        cases closes
        rw [← whole]
        rfl
      · rw [cut?_cons ends] at closes
        simp only [Option.map_eq_some_iff, Prod.mk.injEq, Prod.exists] at closes
        obtain ⟨inside, after, closes, -, rfl⟩ := closes
        rw [remainder, lex]
        · exact ih closes
        · rintro tail rfl rfl
          exact ends ⟨tail, rfl⟩

theorem cut?_closing (unended : ¬ closing <:+: body) (rest : Text) :
    cut? closing (body ++ (closing ++ rest)) = some (body, rest) := by
  induction body with
  | nil => exact cut?_append closing rest
  | cons c body ih =>
      rw [List.infix_cons_iff, not_or] at unended
      -- No marker is put together from the end of the body and the marker behind it, since the two
      -- characters of the marker differ.
      have apart : ¬ closing <+: c :: (body ++ (closing ++ rest)) := by
        intro starts
        obtain ⟨rfl, second⟩ := List.cons_prefix_cons.mp starts
        cases body with
        | nil => simp [closing] at second
        | cons d body =>
            obtain ⟨rfl, -⟩ := List.cons_prefix_cons.mp second
            exact unended.1 ⟨body, rfl⟩
      rw [List.cons_append, cut?_cons apart, ih unended.2]
      rfl

/-- A comment that is found began before the lexemes, or one of them begins it and it is the first
to end behind that. -/
theorem mem_commentsFrom {span : Span} {lexemes : List Lexeme} {begun? : Option Nat}
    (member : span ∈ commentsFrom offset begun? lexemes) :
    (begun? = some span.start ∧ (commentsFrom offset begun? lexemes).head? = some span) ∨
    ∃ before after, lexemes = before ++ .blockOpening :: after ∧
      span.start = offset + size (before.flatMap Lexeme.text) ∧
      (commentsFrom (span.start + size opening) (some span.start) after).head? = some span := by
  induction lexemes generalizing offset begun? with
  | nil =>
      cases begun? with
      | none => cases member
      | some start =>
          have same : span = ⟨start, offset⟩ := by simpa [commentsFrom] using member
          subst same
          exact .inl ⟨rfl, rfl⟩
  | cons lexeme rest ih =>
      have later {started? : Option Nat}
          (member : span ∈ commentsFrom (offset + size lexeme.text) started? rest) :
          (started? = some span.start ∧
            (commentsFrom (offset + size lexeme.text) started? rest).head? = some span) ∨
          ∃ before after, lexeme :: rest = before ++ .blockOpening :: after ∧
            span.start = offset + size (before.flatMap Lexeme.text) ∧
            (commentsFrom (span.start + size opening) (some span.start) after).head? =
              some span := by
        refine (ih member).imp_right ?_
        rintro ⟨before, after, rfl, starts, ends⟩
        refine ⟨lexeme :: before, after, rfl, ?_, ends⟩
        rw [List.flatMap_cons, size_append, starts, Nat.add_assoc]
      cases lexeme with
      | blockOpening =>
          -- Either this one begins the comment, which then is the next to end, or a later one does.
          rcases @later (some offset) member with ⟨same, first⟩ | found
          · cases same
            exact .inr ⟨[], rest, rfl, rfl, first⟩
          · exact .inr found
      | blockClosing =>
          cases begun? with
          | none => exact later member
          | some start =>
              rcases List.mem_cons.mp member with rfl | behind
              · exact .inl ⟨rfl, rfl⟩
              · exact .inr ((later behind).resolve_left fun started => nomatch started.1)
      | code c => exact later member
      | lineOpening => exact later member
      | lineBody c => exact later member
      | blockBody c => exact later member

theorem cut?_of_spansInside (start inner : Nat)
    (ends : (spansInside start inner (body ++ (closing ++ rest))).head? =
      some ⟨start, inner + size (body ++ closing)⟩) :
    cut? closing (body ++ (closing ++ rest)) = some (body, rest) := by
  unfold spansInside at ends
  cases closes : cut? closing (body ++ (closing ++ rest)) with
  | none =>
      have present : closing <:+: body ++ (closing ++ rest) := ⟨body, rest, by simp⟩
      exact absurd present (cut?_eq_none_iff.mp closes)
  | some parts =>
      obtain ⟨inside, after⟩ := parts
      have whole := eq_append_of_cut? closes
      simp only [closes, List.head?_cons, Option.some.injEq, Span.mk.injEq, true_and,
        size_append] at ends
      have same : body = inside := by
        rw [List.append_assoc] at whole
        exact eq_of_append_of_size whole (by omega)
      rw [same, List.append_assoc, List.append_cancel_left_eq, List.append_cancel_left_eq] at whole
      rw [same, whole]

/-- The lexer meets each block comment that is found, and the comment ends with the first `*/` in
it. -/
theorem meets_of_mem_spans
    (live : ⟨size front, size front + size (opening ++ (body ++ closing))⟩ ∈
      spans (front ++ (opening ++ (body ++ (closing ++ rest))))) :
    Meets .blockOpening front (front ++ (opening ++ (body ++ (closing ++ rest)))) ∧
      cut? closing (body ++ (closing ++ rest)) = some (body, rest) := by
  rw [spans_eq_comments] at live
  rcases mem_commentsFrom live with ⟨began, -⟩ | ⟨before, after, read, starts, ends⟩
  · cases began
  · -- The comment is given by its place, and the lexemes before it have as many bytes as `front`.
    have lexed := text_lex .code (front ++ (opening ++ (body ++ (closing ++ rest))))
    rw [read, List.flatMap_append] at lexed
    have whole := eq_of_append_of_size lexed (starts.trans (Nat.zero_add _)).symm
    obtain ⟨behind, -⟩ := lex_front read whole
    rw [eq_code_of_opening (.inr rfl) behind.symm] at behind
    have entered : after = lex .blockComment (body ++ (closing ++ rest)) := (List.cons.inj behind).2
    have found := commentsFrom_lex .blockComment (body ++ (closing ++ rest)) (size front)
      (size front + size opening)
    rw [if_pos rfl, ← entered] at found
    refine ⟨⟨before, after, read, whole⟩,
      cut?_of_spansInside (size front) (size front + size opening) ?_⟩
    rw [size_append, ← Nat.add_assoc] at ends
    exact (congrArg List.head? found).symm.trans ends

/-- What is left of two texts that differ in a comment is the same but for what a line comment
says. -/
theorem strip_of_recommented (recommented : Recommented text other) :
    strip other = strip text ∨
    ∃ left body said rest : Text, '\n' ∉ body ∧ '\n' ∉ said ∧
      (rest = [] ∨ ∃ below, rest = '\n' :: below) ∧
      strip text = left ++ (lineMarker ++ (body ++ rest)) ∧
      strip other = left ++ (lineMarker ++ (said ++ rest)) := by
  cases recommented with
  | @block front body other rest live unended =>
      obtain ⟨met, closes⟩ := meets_of_mem_spans live
      obtain ⟨left, behind⟩ := remainder_behind (.inr rfl) met
      have removed {said : Text} (closes : cut? closing (said ++ (closing ++ rest)) =
          some (said, rest)) :
          strip (front ++ (opening ++ (said ++ (closing ++ rest)))) =
            left ++ remainder .code rest := by
        rw [strip_eq_remainder, ← remainder_of_closed closes]
        exact behind _
      exact .inl ((removed (cut?_closing unended rest)).trans (removed closes).symm)
  | @line front body other rest met unbroken ended other_unbroken =>
      obtain ⟨left, behind⟩ := remainder_behind (.inl rfl) met
      have kept {said : Text} (unbroken : '\n' ∉ said) :
          strip (front ++ (lineMarker ++ (said ++ rest))) =
            left ++ (lineMarker ++ (said ++ remainder .code rest)) := by
        rw [strip_eq_remainder, ← remainder_lineComment unbroken ended]
        exact behind _
      refine .inr ⟨left, body, other, remainder .code rest, unbroken, other_unbroken, ?_,
        kept unbroken, kept other_unbroken⟩
      rcases ended with rfl | ⟨below, rfl⟩
      · exact .inl rfl
      · exact .inr ⟨remainder .code below, rfl⟩

end ShaderVariants.Comment
