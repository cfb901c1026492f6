import ShaderVariants.Comment

/-!
Comments, found in one pass over the text.

The lexer goes from front to back and is always inside of code, of a line comment or of a block
comment.  In code `//` and `/*` begin a comment.  A line comment ends where its line does and a
block comment with the first `*/`; nothing else in them means anything.  `comments` reads the byte
ranges of the block comments off the lexemes, `modeAt?` what the lexer was inside of at a byte.
-/
namespace ShaderVariants.Comment

/-- What the lexer is inside of. -/
inductive Mode where
  | code
  | lineComment
  | blockComment
deriving DecidableEq, Repr

/-- What the lexer reads in one move: a marker, or one character of what it is inside of. -/
inductive Lexeme where
  | code (c : Char)
  | lineOpening
  | lineBody (c : Char)
  | blockOpening
  | blockBody (c : Char)
  | blockClosing
deriving DecidableEq, Repr

namespace Lexeme

/-- The characters of the lexeme. -/
def text : Lexeme → Text
  | .code c | .lineBody c | .blockBody c => [c]
  | .lineOpening => lineMarker
  | .blockOpening => opening
  | .blockClosing => closing

/-- What the lexeme is a part of; markers are parts of their comments. -/
def mode : Lexeme → Mode
  | .code _ => .code
  | .lineOpening | .lineBody _ => .lineComment
  | .blockOpening | .blockBody _ | .blockClosing => .blockComment

end Lexeme

/-- The lexemes of a text at the beginning of which the lexer is inside of `mode`. -/
def lex : Mode → Text → List Lexeme
  | _, [] => []
  | .code, '/' :: '/' :: rest => .lineOpening :: lex .lineComment rest
  | .code, '/' :: '*' :: rest => .blockOpening :: lex .blockComment rest
  | .code, c :: rest => .code c :: lex .code rest
  | .lineComment, '\n' :: rest => .code '\n' :: lex .code rest
  | .lineComment, c :: rest => .lineBody c :: lex .lineComment rest
  | .blockComment, '*' :: '/' :: rest => .blockClosing :: lex .code rest
  | .blockComment, c :: rest => .blockBody c :: lex .blockComment rest

/-- The block comments among lexemes that start at byte `offset`; `begun?` is where the one that is
still open there began.  The end of the text ends a comment without its own end. -/
def commentsFrom (offset : Nat) (begun? : Option Nat) : List Lexeme → List Span
  | [] => (begun?.map fun start => ⟨start, offset⟩).toList
  | lexeme :: rest =>
      let next := offset + Text.size lexeme.text
      match lexeme, begun? with
      | .blockOpening, _ => commentsFrom next (some offset) rest
      | .blockClosing, some start => ⟨start, next⟩ :: commentsFrom next none rest
      | _, _ => commentsFrom next begun? rest

/-- The block comments that one pass over `text` meets, in order. -/
def comments (text : Text) : List Span :=
  commentsFrom 0 none (lex .code text)

/-- What the lexer is inside of at byte `offset` of some lexemes. -/
def modeAt? (offset : Nat) : List Lexeme → Option Mode
  | [] => none
  | lexeme :: rest =>
      if offset < Text.size lexeme.text then some lexeme.mode
      else modeAt? (offset - Text.size lexeme.text) rest

/-- The lexer loses nothing. -/
theorem text_lex (mode : Mode) (text : Text) : (lex mode text).flatMap Lexeme.text = text := by
  fun_induction lex mode text <;> simp_all [Lexeme.text, lineMarker, opening, closing]

/-- How the lexer's equations say that a marker of two characters is not ahead. -/
theorem not_prefix_of_apart {first second c : Char} {rest : Text}
    (apart : ∀ tail, c = first → rest = second :: tail → False) :
    ¬ [first, second] <+: c :: rest := by
  rintro ⟨tail, whole⟩
  cases whole
  exact apart tail rfl rfl

end ShaderVariants.Comment
