import ShaderVariants.Proofs.Comment.Lexer
import ShaderVariants.Proofs.Text.Search

/-!
The search for markers finds the comments that one pass over the text finds.

The search says the same of a text and of what is left of it after one move of the lexer; these
four equations carry the agreement.
-/
namespace ShaderVariants.Comment

open Text

variable {text before body rest : Text} {offset : Nat} {c : Char}

/-- What the search finds from inside a comment that began at byte `start`, when `body` is ahead at
byte `inner`. -/
def spansInside (start inner : Nat) (body : Text) : List Span :=
  match cut? closing body with
  | none => [⟨start, inner + size body⟩]
  | some (inside, after) =>
      ⟨start, inner + size inside + size closing⟩ ::
        spansFrom (inner + size inside + size closing) after

theorem spansFrom_of_absent (absent : cut? opening text = none) : spansFrom offset text = [] := by
  rw [spansFrom]
  split
  · rfl
  · next found => simp [absent] at found

theorem spansFrom_of_hidden (found : cut? opening text = some (before, body))
    (hidden : hides (lastLine before) '/' = true) :
    spansFrom offset text = spansFrom (offset + size before + size opening + size (firstLine body))
      (fromLineEnd body) := by
  rw [spansFrom]
  split
  · next absent => simp [absent] at found
  · next again =>
      rw [found] at again
      cases again
      rw [if_pos hidden]

theorem spansFrom_of_live (found : cut? opening text = some (before, body))
    (live : hides (lastLine before) '/' = false) :
    spansFrom offset text =
      spansInside (offset + size before) (offset + size before + size opening) body := by
  rw [spansFrom]
  split
  · next absent => simp [absent] at found
  · next again =>
      rw [found] at again
      cases again
      rw [if_neg (by simp [live]), spansInside]
      split <;> split <;> simp_all

/-- Text is passed over if the search looks for the next `/*` behind it and no longer sees it on the
line of that candidate. -/
theorem spansFrom_append (front : Text)
    (skipped : cut? opening (front ++ text) =
      (cut? opening text).map fun (before, body) => (front ++ before, body))
    (unseen : ∀ before body, cut? opening text = some (before, body) →
      hides (lastLine (front ++ before)) '/' = hides (lastLine before) '/') :
    spansFrom offset (front ++ text) = spansFrom (offset + size front) text := by
  cases found : cut? opening text with
  | none => rw [spansFrom_of_absent found, spansFrom_of_absent (by simp [skipped, found])]
  | some parts =>
      obtain ⟨before, body⟩ := parts
      have same := unseen before body found
      rw [found, Option.map_some] at skipped
      cases hidden : hides (lastLine before) '/' with
      | true =>
          rw [spansFrom_of_hidden skipped (by rw [same, hidden]), spansFrom_of_hidden found hidden]
          simp only [size_append, Nat.add_assoc]
      | false =>
          rw [spansFrom_of_live skipped (by rw [same, hidden]), spansFrom_of_live found hidden]
          simp only [size_append, Nat.add_assoc]

theorem hides_cons (apart : ¬ lineMarker <+: c :: (before ++ ['/'])) :
    hides (lastLine (c :: before)) '/' = hides (lastLine before) '/' := by
  rw [← List.singleton_append, lastLine_append]
  by_cases broken : '\n' ∈ before
  · rw [if_pos broken]
  · rw [if_neg broken, lastLine_of_unbroken broken]
    by_cases ends : c = '\n'
    · subst c
      rfl
    · have alone : lastLine [c] = [c] := lastLine_of_unbroken (by simpa using Ne.symm ends)
      rw [alone, hides, hides, Bool.eq_iff_iff, mentions_iff, mentions_iff, List.append_assoc,
        List.singleton_append, List.infix_cons_iff, or_iff_right apart]

theorem spansFrom_code (noLine : ¬ lineMarker <+: c :: rest) (noBlock : ¬ opening <+: c :: rest) :
    spansFrom offset (c :: rest) = spansFrom (offset + size [c]) rest := by
  refine spansFrom_append [c] (cut?_cons noBlock) fun before body found => ?_
  refine hides_cons fun starts => noLine (starts.trans ⟨'*' :: body, ?_⟩)
  rw [eq_append_of_cut? found]
  simp [opening]

theorem spansFrom_blockComment :
    spansFrom offset (opening ++ body) = spansInside offset (offset + size opening) body :=
  spansFrom_of_live (cut?_append opening body) (by decide)

theorem lineMarker_prefix_of_cut? {line : Text} (found : cut? opening line = some (before, body))
    (starts : lineMarker <+: line) : lineMarker <+: before ++ ['/'] := by
  have whole := eq_append_of_cut? found
  have front : before ++ ['/'] <+: line := ⟨'*' :: body, by rw [whole]; simp [opening]⟩
  cases before with
  | nil =>
      rw [whole] at starts
      simp [lineMarker, opening] at starts
  | cons c before =>
      exact List.prefix_of_prefix_length_le starts front (by simp [lineMarker])

theorem spansFrom_hiddenLine {line tail : Text} (offset : Nat) (unbroken : '\n' ∉ line)
    (starts : lineMarker <+: line) (ends : tail = [] ∨ ∃ below, tail = '\n' :: below) :
    spansFrom offset (line ++ tail) = spansFrom (offset + size line) tail := by
  cases found : cut? opening line with
  | some parts =>
      obtain ⟨before, body⟩ := parts
      have whole := eq_append_of_cut? found
      have clean : '\n' ∉ before := fun member => unbroken (by simp [whole, member])
      have cleanBody : '\n' ∉ body := fun member => unbroken (by simp [whole, member])
      have hidden : hides (lastLine before) '/' = true := by
        rw [lastLine_of_unbroken clean, hides, mentions_iff]
        exact (lineMarker_prefix_of_cut? found starts).isInfix
      have length : size line = size before + size opening + size body := by
        simp only [whole, size_append]
      have parts : firstLine tail = [] ∧ fromLineEnd tail = tail := by
        rcases ends with rfl | ⟨below, rfl⟩ <;> simp [firstLine, fromLineEnd]
      rw [spansFrom_of_hidden (cut?_append_of_found found tail) hidden, firstLine_append cleanBody,
        fromLineEnd_append cleanBody, parts.1, parts.2, List.append_nil, length]
      simp only [Nat.add_assoc]
  | none =>
      rcases ends with rfl | ⟨below, rfl⟩
      · rw [List.append_nil, spansFrom_of_absent found, spansFrom_of_absent (by decide)]
      · refine spansFrom_append _
          (cut?_append_cons (by decide) (cut?_eq_none_iff.mp found) below) ?_
        intro before body later
        have broken : '\n' ∈ before := by
          cases before with
          | nil => simpa [opening] using eq_append_of_cut? later
          | cons c before => simpa using Or.inl (List.cons.inj (eq_append_of_cut? later)).1
        rw [lastLine_append, if_pos broken]

theorem spansFrom_lineComment :
    spansFrom offset (lineMarker ++ rest) =
      spansFrom (offset + size lineMarker + size (firstLine rest)) (fromLineEnd rest) := by
  have unbroken : '\n' ∉ lineMarker ++ firstLine rest := by
    simpa [lineMarker] using firstLine_unbroken rest
  have skipped := spansFrom_hiddenLine offset unbroken (List.prefix_append _ _)
    (fromLineEnd_cases rest)
  rw [List.append_assoc, firstLine_append_fromLineEnd, size_append, ← Nat.add_assoc] at skipped
  exact skipped

/-- What the search finds ahead of byte `offset` when the lexer is inside of `mode` there; `start`
is where the block comment began, if it is inside of one. -/
def spansAhead (start offset : Nat) : Mode → Text → List Span
  | .code, ahead => spansFrom offset ahead
  | .lineComment, ahead => spansFrom (offset + size (firstLine ahead)) (fromLineEnd ahead)
  | .blockComment, ahead => spansInside start offset ahead

theorem spansInside_body (inside : ¬ closing <+: c :: rest) (start : Nat) :
    spansInside start offset (c :: rest) = spansInside start (offset + size [c]) rest := by
  rw [spansInside, cut?_cons inside, spansInside]
  cases cut? closing rest with
  | none => simp [size_cons, size_nil, Nat.add_assoc]
  | some parts => simp [size_cons, size_nil, Nat.add_assoc]

theorem spansInside_closing (start : Nat) :
    spansInside start offset (closing ++ rest) =
      ⟨start, offset + size closing⟩ :: spansFrom (offset + size closing) rest := by
  rw [spansInside, cut?_append]
  rfl

/-- The lexer's moves and the equations of the search go together, mode by mode. -/
theorem commentsFrom_lex (mode : Mode) (ahead : Text) (start offset : Nat) :
    commentsFrom offset (if mode = .blockComment then some start else none) (lex mode ahead) =
      spansAhead start offset mode ahead := by
  fun_induction lex mode ahead generalizing start offset with
  | case1 mode =>
      have nothing (offset : Nat) : spansFrom offset [] = [] := spansFrom_of_absent rfl
      cases mode with
      | code => exact (nothing offset).symm
      | lineComment => exact (nothing _).symm
      | blockComment => rfl
  | case2 rest ih =>
      exact (ih start (offset + size lineMarker)).trans spansFrom_lineComment.symm
  | case3 rest ih =>
      exact (ih offset (offset + size opening)).trans spansFrom_blockComment.symm
  | case4 c rest noLine noBlock ih =>
      refine (ih start (offset + size [c])).trans ?_
      exact (spansFrom_code (not_prefix_of_apart noLine) (not_prefix_of_apart noBlock)).symm
  | case5 rest ih =>
      refine (ih start (offset + size ['\n'])).trans ?_
      exact (spansFrom_code (by simp [lineMarker]) (by simp [opening])).symm
  | case6 c rest inside ih =>
      refine (ih start (offset + size [c])).trans ?_
      have unbroken : '\n' ∉ [c] := by simpa using fun same => inside same.symm
      have front : c :: rest = [c] ++ rest := rfl
      rw [spansAhead, spansAhead, front, firstLine_append unbroken, fromLineEnd_append unbroken,
        size_append, Nat.add_assoc]
  | case7 rest ih =>
      have later := ih start (offset + size closing)
      exact (congrArg (⟨start, offset + size closing⟩ :: ·) later).trans
        (spansInside_closing start).symm
  | case8 c rest inside ih =>
      exact (ih start (offset + size [c])).trans
        (spansInside_body (not_prefix_of_apart inside) start).symm

/-- The search and the lexer find the same block comments in every text. -/
theorem spans_eq_comments (text : Text) : spans text = comments text :=
  (commentsFrom_lex .code text 0 0).symm

end ShaderVariants.Comment
