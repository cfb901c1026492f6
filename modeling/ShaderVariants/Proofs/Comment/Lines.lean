import ShaderVariants.Proofs.Comment.Parts
import ShaderVariants.Proofs.Text.Lines

/-!
Comments, line by line.

No marker reaches over a line break, so the lexer can be stopped where a line ends and go on from
there (`lex_append`).  All it has to remember is what it is inside of, `modeBehind` what it has
read.
-/
namespace ShaderVariants.Comment

open Text

variable {mode : Mode} {front back rest text : Text} {first second c : Char}

/-- What the lexer is inside of behind the lexeme. -/
def Lexeme.next : Lexeme → Mode
  | .code _ | .blockClosing => .code
  | .lineOpening | .lineBody _ => .lineComment
  | .blockOpening | .blockBody _ => .blockComment

/-- What the lexer is inside of behind a text at the beginning of which it is inside of `mode`. -/
def modeBehind (mode : Mode) (text : Text) : Mode :=
  (lex mode text).foldl (fun _ lexeme => lexeme.next) mode

/-- What is left of a text without its block comments, with the lexer inside of `mode` at its
beginning. -/
def remainder (mode : Mode) (text : Text) : Text :=
  (lex mode text).flatMap fun lexeme => if lexeme.mode = .blockComment then [] else lexeme.text

theorem snd_located (offset : Nat) (text : Text) : (located offset text).map Prod.snd = text := by
  induction text generalizing offset with
  | nil => rfl
  | cons c rest ih => rw [located, List.map_cons, ih]

theorem survivors_eq_flatMap (offset : Nat) (lexemes : List Lexeme) :
    (survivors offset lexemes).map (·.2.1) =
      lexemes.flatMap fun lexeme => if lexeme.mode = .blockComment then [] else lexeme.text := by
  induction lexemes generalizing offset with
  | nil => rfl
  | cons lexeme rest ih =>
      rw [survivors, List.flatMap_cons, ← ih (offset + size lexeme.text)]
      split
      · rfl
      · rw [List.map_append, List.map_map]
        exact congrArg (· ++ _) (snd_located offset lexeme.text)

theorem strip_eq_remainder (text : Text) : strip text = remainder .code text := by
  rw [strip_eq_kept, kept_eq_survivors, List.map_map, remainder, ← survivors_eq_flatMap 0]
  rfl

theorem closed_tail (closed : Closed (c :: rest)) : Closed rest := by
  intro last found
  refine closed last ?_
  rw [List.getLast?_cons, found]
  rfl

theorem rest_ne_nil_of_closed (closed : Closed (c :: rest)) (inside : c ≠ '\n') : rest ≠ [] := by
  rintro rfl
  exact inside (closed c rfl)

/-- Whether there is a line break on one side of the seam between two texts. -/
def Parted (front back : Text) : Prop :=
  ∀ last ∈ front.getLast?, ∀ next ∈ back.head?, last = '\n' ∨ next = '\n'

theorem parted_of_closed (closed : Closed front) (back : Text) : Parted front back :=
  fun last ends _ _ => .inl (closed last ends)

theorem parted_break (front back : Text) : Parted front ('\n' :: back) := by
  rintro last - next starts
  exact .inr (Option.some.inj starts).symm

theorem parted_tail (parted : Parted (c :: rest) back) : Parted rest back := by
  intro last ends
  refine parted last ?_
  rw [List.getLast?_cons, ends]
  rfl

/-- A marker is not read across a line break. -/
theorem apart_append (parted : Parted (c :: rest) back) (clean : first ≠ '\n')
    (second_clean : second ≠ '\n')
    (apart : ∀ tail, c = first → rest = second :: tail → False) :
    ∀ tail, c = first → rest ++ back = second :: tail → False := by
  intro tail same whole
  cases rest with
  | nil =>
      have starts : back.head? = some second := by rw [← List.nil_append back, whole]; rfl
      rcases parted c rfl second starts with ended | ended
      · exact clean (same ▸ ended)
      · exact second_clean ended
  | cons d rest => exact apart rest same (by rw [(List.cons.inj whole).1])

/-- The lexer can be stopped on either side of a line break. -/
theorem lex_append_of_parted (parted : Parted front back) (mode : Mode) :
    lex mode (front ++ back) = lex mode front ++ lex (modeBehind mode front) back := by
  unfold modeBehind
  fun_induction lex mode front with
  | case1 mode => rfl
  | case2 rest ih => exact congrArg _ (ih (parted_tail (parted_tail parted)))
  | case3 rest ih => exact congrArg _ (ih (parted_tail (parted_tail parted)))
  | case4 c rest noLine noBlock ih =>
      rw [List.cons_append, lex]
      · exact congrArg _ (ih (parted_tail parted))
      · exact apart_append parted (by decide) (by decide) noLine
      · exact apart_append parted (by decide) (by decide) noBlock
  | case5 rest ih => exact congrArg _ (ih (parted_tail parted))
  | case6 c rest inside ih =>
      rw [List.cons_append, lex]
      · exact congrArg _ (ih (parted_tail parted))
      · exact inside
  | case7 rest ih => exact congrArg _ (ih (parted_tail (parted_tail parted)))
  | case8 c rest inside ih =>
      rw [List.cons_append, lex]
      · exact congrArg _ (ih (parted_tail parted))
      · exact apart_append parted (by decide) (by decide) inside

theorem remainder_append_of_parted (parted : Parted front back) (mode : Mode) :
    remainder mode (front ++ back) =
      remainder mode front ++ remainder (modeBehind mode front) back := by
  rw [remainder, lex_append_of_parted parted, List.flatMap_append]
  rfl

/-- The lexer can be stopped where a line ends. -/
theorem lex_append (closed : Closed front) (mode : Mode) (back : Text) :
    lex mode (front ++ back) = lex mode front ++ lex (modeBehind mode front) back :=
  lex_append_of_parted (parted_of_closed closed back) mode

theorem modeBehind_append (closed : Closed front) (mode : Mode) (back : Text) :
    modeBehind mode (front ++ back) = modeBehind (modeBehind mode front) back := by
  rw [modeBehind, lex_append closed, List.foldl_append]
  rfl

theorem remainder_append (closed : Closed front) (mode : Mode) (back : Text) :
    remainder mode (front ++ back) =
      remainder mode front ++ remainder (modeBehind mode front) back :=
  remainder_append_of_parted (parted_of_closed closed back) mode

/-- Outside of block comments a line break is left, and ends what the lexer is inside of. -/
theorem remainder_break (outside : mode ≠ .blockComment) (back : Text) :
    remainder mode ('\n' :: back) = '\n' :: remainder .code back := by
  cases mode with
  | code => rfl
  | lineComment => rfl
  | blockComment => exact absurd rfl outside

/-- How reading stands where a line has ended, when `left` is what has been left so far: inside of a
block comment, or in code with the end of the line left. -/
inductive AtLineEnd : Mode → (left : Text) → Prop where
  | commented (left : Text) : AtLineEnd .blockComment left
  | broken (above : Text) : AtLineEnd .code (above ++ ['\n'])

theorem AtLineEnd.prepend {left : Text} (ended : AtLineEnd mode left) (front : Text) :
    AtLineEnd mode (front ++ left) := by
  cases ended with
  | commented left => exact .commented _
  | broken above => exact List.append_assoc front above _ ▸ .broken (front ++ above)

theorem AtLineEnd.closed {left : Text} (ended : AtLineEnd .code left) : Closed left := by
  cases ended with
  | broken above => exact closed_concat above

theorem AtLineEnd.eq_code {left : Text} (ended : AtLineEnd mode left)
    (outside : mode ≠ .blockComment) : mode = .code := by
  cases ended with
  | commented left => exact absurd rfl outside
  | broken above => rfl

theorem atLineEnd (closed : Closed text) (nonempty : text ≠ []) (mode : Mode) :
    AtLineEnd (modeBehind mode text) (remainder mode text) := by
  unfold modeBehind remainder
  fun_induction lex mode text with
  | case1 mode => exact absurd rfl nonempty
  | case2 rest ih =>
      have behind := closed_tail closed
      exact (ih (closed_tail behind) (rest_ne_nil_of_closed behind (by decide))).prepend lineMarker
  | case3 rest ih =>
      have behind := closed_tail closed
      exact ih (closed_tail behind) (rest_ne_nil_of_closed behind (by decide))
  | case4 c rest noLine noBlock ih =>
      by_cases last : rest = []
      · subst last
        rw [closed c rfl]
        exact .broken []
      · exact (ih (closed_tail closed) last).prepend [c]
  | case5 rest ih =>
      by_cases last : rest = []
      · subst last
        exact .broken []
      · exact (ih (closed_tail closed) last).prepend ['\n']
  | case6 c rest inside ih =>
      exact (ih (closed_tail closed) (rest_ne_nil_of_closed closed inside)).prepend [c]
  | case7 rest ih =>
      have behind := closed_tail closed
      exact ih (closed_tail behind) (rest_ne_nil_of_closed behind (by decide))
  | case8 c rest inside ih =>
      by_cases last : rest = []
      · subst last
        exact .commented _
      · exact ih (closed_tail closed) last

/-- Inside of a block comment that does not end in it, a text leaves nothing. -/
theorem lex_blockComment (inside : ¬ closing <:+: text) :
    lex .blockComment text = text.map .blockBody := by
  induction text with
  | nil => rfl
  | cons c rest ih =>
      rw [List.infix_cons_iff, not_or] at inside
      rw [lex, ih inside.2]
      · rfl
      · rintro tail rfl rfl
        exact inside.1 ⟨tail, rfl⟩

/-- Without a marker there is no comment. -/
theorem lex_of_markerless (noLine : ¬ lineMarker <:+: text) (noBlock : ¬ opening <:+: text) :
    lex .code text = text.map .code := by
  induction text with
  | nil => rfl
  | cons c rest ih =>
      rw [List.infix_cons_iff, not_or] at noLine noBlock
      rw [lex, ih noLine.2 noBlock.2]
      · rfl
      · rintro tail rfl rfl
        exact noLine.1 ⟨tail, rfl⟩
      · rintro tail rfl rfl
        exact noBlock.1 ⟨tail, rfl⟩

theorem lex_of_plain (plain : '/' ∉ text) : lex .code text = text.map .code := by
  apply lex_of_markerless
  · exact fun inside => plain (inside.subset List.mem_cons_self)
  · exact fun inside => plain (inside.subset List.mem_cons_self)

theorem foldl_next {lexemes : List Lexeme} (same : ∀ lexeme ∈ lexemes, lexeme.next = mode) :
    lexemes.foldl (fun _ lexeme => lexeme.next) mode = mode := by
  induction lexemes with
  | nil => rfl
  | cons lexeme rest ih =>
      simp only [List.mem_cons, forall_eq_or_imp] at same
      rw [List.foldl_cons, same.1, ih same.2]

theorem modeBehind_blockComment (inside : ¬ closing <:+: text) :
    modeBehind .blockComment text = .blockComment := by
  rw [modeBehind, lex_blockComment inside]
  exact foldl_next (by simp [Lexeme.next])

theorem remainder_blockComment (inside : ¬ closing <:+: text) :
    remainder .blockComment text = [] := by
  simp [remainder, lex_blockComment inside, Lexeme.mode]

theorem modeBehind_of_code (lexed : lex .code text = text.map .code) :
    modeBehind .code text = .code := by
  rw [modeBehind, lexed]
  exact foldl_next (by simp [Lexeme.next])

theorem remainder_of_code (lexed : lex .code text = text.map .code) :
    remainder .code text = text := by
  rw [remainder, lexed, List.flatMap_map]
  exact List.flatMap_singleton' text

theorem modeBehind_of_plain (plain : '/' ∉ text) : modeBehind .code text = .code :=
  modeBehind_of_code (lex_of_plain plain)

theorem remainder_of_plain (plain : '/' ∉ text) : remainder .code text = text :=
  remainder_of_code (lex_of_plain plain)

end ShaderVariants.Comment
