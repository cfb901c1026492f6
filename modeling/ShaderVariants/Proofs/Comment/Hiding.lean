import ShaderVariants.Proofs.Comment.Lookback
import ShaderVariants.Proofs.Comment.Parts
import ShaderVariants.Proofs.Directive.Reach

/-!
Line comments, before and after the block comments are left out.

Leaving block comments out joins what stood on both sides of them.  No `//` comes or goes by that:
in front of a block comment there is never a `/` that is still free to begin a line comment.  So a
marker in what is left has a `//` in front of it on its line exactly if the lexer met it inside of a
line comment.
-/
namespace ShaderVariants.Comment

open Text

variable {line front ahead rest : Text} {c : Char} {entries : List (Nat × Char × Mode)}

theorem lineMarker_concat_iff :
    lineMarker <:+: line ++ [c] ↔ lineMarker <:+: line ∨ c = '/' ∧ ['/'] <:+ line := by
  rw [List.infix_concat_iff, List.suffix_concat_iff, or_comm]
  refine or_congr_right ⟨?_, ?_⟩
  · rintro (empty | ⟨tail, whole, ends⟩)
    · cases empty
    · have divided : ['/'] ++ ['/'] = tail ++ [c] := whole
      obtain ⟨rfl, same⟩ := List.append_inj' divided rfl
      exact ⟨(List.cons.inj same).1.symm, ends⟩
  · rintro ⟨rfl, ends⟩
    exact .inr ⟨['/'], rfl, ends⟩

theorem lastLine_concat (front : Text) (c : Char) :
    lastLine (front ++ [c]) = if c = '\n' then [] else lastLine front ++ [c] := by
  rw [lastLine_append]
  by_cases ends : c = '\n'
  · subst c
    rfl
  · rw [if_neg ends, if_neg (by simpa using Ne.symm ends)]

/-- What has been kept of the current line says where the lexer is: `//` is in it exactly in a line
comment, and outside of one no `/` at its end can become a part of `//`. -/
def Shows : Mode → (line ahead : Text) → Prop
  | .code, line, ahead => ¬ lineMarker <:+: line ∧
      (['/'] <:+ line → ¬ ['/'] <+: ahead ∧ ¬ ['*'] <+: ahead)
  | .lineComment, line, _ => lineMarker <:+: line
  | .blockComment, line, _ => ¬ lineMarker <:+: line ∧ ¬ ['/'] <:+ line

theorem shows_code_nil (ahead : Text) : Shows .code [] ahead :=
  ⟨by decide, by simp⟩

theorem Shows.code_step (shows : Shows .code (lastLine front) (c :: rest))
    (noLine : ¬ lineMarker <+: c :: rest) (noBlock : ¬ opening <+: c :: rest) :
    Shows .code (lastLine (front ++ [c])) rest := by
  rw [lastLine_concat]
  split
  · exact shows_code_nil rest
  · constructor
    · rw [lineMarker_concat_iff]
      rintro (marked | ⟨rfl, ends⟩)
      · exact shows.1 marked
      · exact (shows.2 ends).1 ⟨rest, rfl⟩
    · intro ends
      have slash : c = '/' := by
        rcases List.suffix_concat_iff.mp ends with empty | ⟨tail, whole, _⟩
        · cases empty
        · have divided : [] ++ ['/'] = tail ++ [c] := whole
          exact (List.cons.inj (List.append_inj' divided rfl).2).1.symm
      subst c
      exact ⟨fun starts => noLine (List.cons_prefix_cons.mpr ⟨rfl, starts⟩),
        fun starts => noBlock (List.cons_prefix_cons.mpr ⟨rfl, starts⟩)⟩

theorem Shows.enterBlock (shows : Shows .code line ('/' :: rest)) :
    Shows .blockComment line ahead :=
  ⟨shows.1, fun ends => (shows.2 ends).1 ⟨rest, rfl⟩⟩

theorem Shows.leaveBlock (shows : Shows .blockComment line ahead) : Shows .code line rest :=
  ⟨shows.1, fun ends => absurd ends shows.2⟩

theorem shows_lineOpening (front ahead : Text) :
    Shows .lineComment (lastLine (front ++ ['/'] ++ ['/'])) ahead := by
  rw [lastLine_concat, lastLine_concat, if_neg (by decide), if_neg (by decide), List.append_assoc]
  exact (List.suffix_append _ _).isInfix

theorem Shows.line_step (shows : Shows .lineComment (lastLine front) ahead) (inside : c ≠ '\n') :
    Shows .lineComment (lastLine (front ++ [c])) rest := by
  rw [lastLine_concat, if_neg inside]
  exact List.IsInfix.trans shows (List.prefix_append _ _).isInfix

/-- Each entry is inside of a line comment exactly if the entries in front of it show a `//` on its
line.  Slashes are left aside, they may be a part of the marker itself. -/
def Reflects (front : Text) (entries : List (Nat × Char × Mode)) : Prop :=
  ∀ before place c mode after, entries = before ++ (place, c, mode) :: after →
    c ≠ '/' → c ≠ '\n' →
      (lineMarker <:+: lastLine (front ++ before.map (·.2.1)) ↔ mode = .lineComment)

theorem Reflects.cons {place : Nat} {mode : Mode}
    (here : c ≠ '/' → c ≠ '\n' → (lineMarker <:+: lastLine front ↔ mode = .lineComment))
    (later : Reflects (front ++ [c]) entries) : Reflects front ((place, c, mode) :: entries) := by
  intro before place' c' mode' after split plain inside
  cases before with
  | nil =>
      cases split
      simpa using here plain inside
  | cons entry before =>
      obtain ⟨rfl, rest⟩ := List.cons.inj split
      have found := later before place' c' mode' after rest plain inside
      rwa [List.append_assoc] at found

/-- The lexer and what is kept agree from every point on where they agree on the current line. -/
theorem reflects_survivors (mode : Mode) (ahead front : Text) (offset : Nat)
    (shows : Shows mode (lastLine front) ahead) :
    Reflects front (survivors offset (lex mode ahead)) := by
  fun_induction lex mode ahead generalizing front offset with
  | case1 mode =>
      intro before place c mode after split
      simp [survivors] at split
  | case2 rest ih =>
      -- The first slash of the pair is kept before the line shows the pair, so slashes say nothing.
      refine .cons (fun plain => absurd rfl plain) (.cons (fun plain => absurd rfl plain) ?_)
      exact ih (front ++ ['/'] ++ ['/']) _ (shows_lineOpening front rest)
  | case3 rest ih => exact ih front _ shows.enterBlock
  | case4 c rest noLine noBlock ih =>
      have next := shows.code_step (not_prefix_of_apart noLine) (not_prefix_of_apart noBlock)
      exact .cons (fun _ _ => iff_of_false shows.1 Mode.noConfusion) (ih _ _ next)
  | case5 rest ih =>
      refine .cons (fun _ inside => absurd rfl inside) (ih _ _ ?_)
      rw [lastLine_concat, if_pos rfl]
      exact shows_code_nil rest
  | case6 c rest inside ih =>
      exact .cons (fun _ _ => iff_of_true shows rfl) (ih _ _ (shows.line_step inside))
  | case7 rest ih => exact ih front _ shows.leaveBlock
  | case8 c rest inside ih => exact ih front _ shows

theorem hides_hash_iff : hides line '#' = true ↔ lineMarker <:+: line := by
  rw [hides, mentions_iff, lineMarker_concat_iff]
  exact or_iff_left fun slash => absurd slash.1 (by decide)

theorem hiddenAt_hash (before after : Text) :
    hiddenAt (before ++ (Directive.marker ++ after)) (size before) 0 =
      hides (lastLine before) '#' := by
  have looked := hiddenAt_eq [] before (Directive.marker.tail ++ after) (c := '#') rfl
  rw [size_nil, Nat.zero_add] at looked
  exact looked

/-- A directive marker in what is left of a text is hidden exactly if its first byte came from a
line comment of the whole text. -/
theorem hidden_iff_lineComment {text before after : Text}
    (found : strip text = before ++ (Directive.marker ++ after)) :
    strip text = (kept text).map Prod.snd ∧
      ∃ origin, (kept text)[before.length]? = some (origin, '#') ∧
        (hiddenAt (strip text) (size before) 0 = true ↔
          modeAt? origin (lex .code text) = some .lineComment) ∧
        (Directive.find? (strip text) (size before) ≠ some (size before) ↔
          modeAt? origin (lex .code text) = some .lineComment) := by
  refine ⟨strip_eq_kept text, ?_⟩
  have division : (survivors 0 (lex .code text)).map (·.2.1) =
      before ++ (Directive.marker ++ after) := by
    rw [← found, strip_eq_kept, kept_eq_survivors, List.map_map]
    rfl
  obtain ⟨front, back, split, rfl, tail⟩ := List.map_eq_append_iff.mp division
  obtain ⟨⟨origin, c, mode⟩, later, rfl, same, _⟩ := List.map_eq_cons_iff.mp tail
  have hash : c = '#' := same
  subst c
  have reflected := reflects_survivors .code text [] 0 (shows_code_nil text) front origin '#' mode
    later split (by decide) (by decide)
  have member : (origin, '#', mode) ∈ survivors 0 (lex .code text) := by
    rw [split]
    simp
  have located : modeAt? origin (lex .code text) = some mode :=
    (modeAt?_of_mem_survivors member).2
  have hidden : hides (lastLine (front.map (·.2.1))) '#' = true ↔ mode = .lineComment :=
    hides_hash_iff.trans reflected
  refine ⟨origin, ?_, ?_, ?_⟩
  · rw [kept_eq_survivors, split]
    simp
  · rw [located, Option.some.injEq, found, hiddenAt_hash]
    exact hidden
  · rw [located, Option.some.injEq, found, Ne, Directive.find?_at_marker, Bool.not_eq_false]
    exact hidden

theorem hidden_behind_blockComment :
    let text : Text := "/*a\n*//**/x // /*#pragma A".toList
    let before : Text := "x // /*".toList
    let after : Text := " A".toList
    strip text = before ++ (Directive.marker ++ after) ∧
      strip text = (kept text).map Prod.snd ∧
      ∃ origin, (kept text)[before.length]? = some (origin, '#') ∧
        (hiddenAt (strip text) (size before) 0 = true ↔
          modeAt? origin (lex .code text) = some .lineComment) ∧
        (Directive.find? (strip text) (size before) ≠ some (size before) ↔
          modeAt? origin (lex .code text) = some .lineComment) := by
  intro text before after
  have found : strip text = before ++ (Directive.marker ++ after) := by
    rw [strip_eq_kept, kept_eq_survivors]
    decide
  exact ⟨found, hidden_iff_lineComment found⟩

end ShaderVariants.Comment
