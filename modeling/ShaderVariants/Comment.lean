import ShaderVariants.Text.Offset

/-!
Block comments, found by searching for their markers, and text without them.

The search jumps from one `/*` to the next.  A candidate with `//` in front of it on its line is
part of a line comment, so the rest of that line is passed over; any other opens a comment that
ends with the first `*/` after it, or with the text.  What belongs to an earlier comment is no
longer looked at, so the `/` of a `*/` never joins the `/` of the next candidate.
-/
namespace ShaderVariants.Comment

/-- The bytes of a block comment, markers included: from `start` up to, and without, `stop`. -/
structure Span where
  start : Nat
  stop : Nat
deriving DecidableEq, Repr

def Span.length (span : Span) : Nat :=
  span.stop - span.start

def Span.isEmpty (span : Span) : Bool :=
  span.start == span.stop

def Span.contains (span : Span) (offset : Nat) : Bool :=
  span.start ≤ offset && offset < span.stop

def opening : Text := ['/', '*']

def closing : Text := ['*', '/']

def lineMarker : Text := ['/', '/']

/-- Whether a line comment hides the marker that starts with `first`, when `line` is what precedes
it on its line.  The first character counts, since `//*` opens no block comment. -/
def hides (line : Text) (first : Char) : Bool :=
  Text.mentions lineMarker (line ++ [first])

/-- The block comments of `text`, which starts at byte `offset`, where a line begins or a comment has
just ended. -/
def spansFrom (offset : Nat) (text : Text) : List Span :=
  match _ : Text.cut? opening text with
  | none => []
  | some (before, body) =>
      let start := offset + Text.size before
      let inner := start + Text.size opening
      if hides (Text.lastLine before) '/' then
        spansFrom (inner + Text.size (Text.firstLine body)) (Text.fromLineEnd body)
      else
        match _ : Text.cut? closing body with
        | none => [⟨start, inner + Text.size body⟩]
        | some (inside, after) =>
            let stop := inner + Text.size inside + Text.size closing
            ⟨start, stop⟩ :: spansFrom stop after
termination_by text.length
decreasing_by
  · have shorter := Text.length_after_cut ‹Text.cut? opening _ = _›
    have suffix : (Text.fromLineEnd body).length ≤ body.length :=
      (List.dropWhile_sublist _).length_le
    omega
  · exact Nat.lt_trans (Text.length_after_cut ‹Text.cut? closing _ = _›)
      (Text.length_after_cut ‹Text.cut? opening _ = _›)

/-- The block comments of `text`, left to right. -/
def spans (text : Text) : List Span :=
  spansFrom 0 text

/-- `text`, which starts at byte `offset`, with the bytes of the given spans left out. -/
def without (offset : Nat) : List Span → Text → Text
  | [], text => text
  | span :: later, text =>
      let kept := span.start - offset
      Text.takeBytes kept text ++
        without span.stop later (Text.dropBytes (kept + span.length) text)

/-- `text` without its block comments; everything else keeps its order. -/
def strip (text : Text) : Text :=
  without 0 (spans text) text

end ShaderVariants.Comment
