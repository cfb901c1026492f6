import ShaderVariants.Proofs.Comment.Hiding
import ShaderVariants.Proofs.Comment.Remainder
import ShaderVariants.Proofs.Keyword.Index

/-!
What an option can look like.

An option is a word of a live directive, up to the line comment behind it.  Neither kind of comment
can begin in it: not a line comment, since the directive ends there, and not a block comment, since
no text is left in which one begins outside of a line comment (`opening_not_infix`).
-/
namespace ShaderVariants

open Text
open Comment (lex lineMarker opening)

namespace Comment

variable {front back line rest text : Text}

/-- Read from within code, nothing of the text is in a block comment. -/
def Commentless (text : Text) : Prop :=
  ∀ lexeme ∈ lex .code text, lexeme.mode ≠ .blockComment

theorem commentless_strip (text : Text) : Commentless (strip text) := by
  intro lexeme member
  have left : lexeme ∈ lex Mode.code.outer (remainder .code text) := by
    rw [← strip_eq_remainder]
    exact member
  rw [lex_remainder] at left
  simpa using (List.mem_filter.mp left).2

theorem Commentless.modeBehind (commentless : Commentless text) :
    modeBehind .code text ≠ .blockComment := by
  have outside (lexemes : List Lexeme) (mode : Mode) (start : mode ≠ .blockComment)
      (none_left : ∀ lexeme ∈ lexemes, lexeme.mode ≠ .blockComment) :
      lexemes.foldl (fun _ lexeme => lexeme.next) mode ≠ .blockComment := by
    induction lexemes generalizing mode with
    | nil => exact start
    | cons lexeme rest ih =>
        rw [List.forall_mem_cons] at none_left
        apply ih lexeme.next _ none_left.2
        cases lexeme with
        | blockOpening => exact absurd rfl none_left.1
        | blockBody c => exact absurd rfl none_left.1
        | code c => simp [Lexeme.next]
        | lineOpening => simp [Lexeme.next]
        | lineBody c => simp [Lexeme.next]
        | blockClosing => simp [Lexeme.next]
  exact outside _ .code (by simp) commentless

/-- A line and the lines below it can be looked at apart. -/
theorem Commentless.split (commentless : Commentless ((line ++ ['\n']) ++ rest)) :
    Commentless (line ++ ['\n']) ∧ Commentless rest := by
  have closed : Closed (line ++ ['\n']) := closed_concat line
  have parts := lex_append closed .code rest
  have first : Commentless (line ++ ['\n']) := by
    intro lexeme member
    apply commentless lexeme
    rw [parts]
    exact List.mem_append_left _ member
  refine ⟨first, ?_⟩
  intro lexeme member
  have in_code := (atLineEnd closed (by simp) .code).eq_code first.modeBehind
  apply commentless lexeme
  rw [parts, in_code]
  exact List.mem_append_right _ member

theorem Commentless.lines (commentless : Commentless text) :
    ∀ line ∈ lines text, Commentless line := by
  induction text using lines_induction with
  | last line unbroken =>
      intro found member
      by_cases empty : line = []
      · subst empty
        cases member
      · rw [lines_of_unbroken unbroken empty, List.mem_singleton] at member
        rw [member]
        exact commentless
  | next line rest unbroken ih =>
      have whole : line ++ '\n' :: rest = (line ++ ['\n']) ++ rest := by simp
      rw [whole] at commentless
      intro found member
      rw [lines_cons_line unbroken, List.mem_cons] at member
      rcases member with rfl | below
      · exact commentless.split.1
      · exact ih commentless.split.2 found below

/-- Where no line comment has begun, a `/*` would begin a block comment. -/
theorem Commentless.opening_not_infix (commentless : Commentless (front ++ back))
    (noLine : ¬ lineMarker <:+: front) : ¬ opening <:+: front := by
  intro inside
  induction front with
  | nil => simp [opening] at inside
  | cons c rest ih =>
      rw [List.infix_cons_iff, not_or] at noLine
      rw [List.infix_cons_iff] at inside
      by_cases begins : opening <+: c :: rest
      · obtain ⟨body, whole⟩ := begins
        rw [← whole] at commentless
        exact commentless .blockOpening List.mem_cons_self rfl
      · have later := inside.resolve_left begins
        cases rest with
        | nil => simp [opening] at later
        | cons d below =>
            apply ih _ noLine.2 later
            intro lexeme member
            apply commentless lexeme
            rw [List.cons_append, lex]
            · exact List.mem_cons_of_mem _ member
            · rintro tail rfl whole
              cases whole
              exact noLine.1 ⟨below, rfl⟩
            · rintro tail rfl whole
              cases whole
              exact begins ⟨below, rfl⟩

end Comment

namespace Keyword

variable {line directive source text word : Text} {known : Vocabulary} {group : Group}
  {option : String}

/-- What can be defined on a line of its own: no blank is in it, no comment begins in it, and it is
not `_`. -/
structure IsPlain (option : String) : Prop where
  solid : ∀ c ∈ option.toList, isBlank c = false
  noLine : ¬ lineMarker <:+: option.toList
  noBlock : ¬ opening <:+: option.toList
  named : option ≠ "_"

theorem infix_of_mem_words (member : word ∈ words text) : word <:+: text := by
  have piece : word ∈ text.splitOnP isBlank := (List.mem_filter.mp member).1
  -- The first piece is carried along as a prefix, since it is the one that still grows.
  have parts : ((text.splitOnP isBlank).head? = some word → word <+: text) ∧ word <:+: text := by
    clear member
    induction text generalizing word with
    | nil => simp_all
    | cons c rest ih =>
        rw [List.splitOnP_cons_eq_if_modifyHead] at piece ⊢
        split at piece
        · next blank =>
            rw [if_pos blank]
            rcases List.mem_cons.mp piece with rfl | later
            · exact ⟨fun _ => List.nil_prefix, List.nil_infix⟩
            · have inside := (ih later).2.trans (List.suffix_cons c rest).isInfix
              refine ⟨fun first => ?_, inside⟩
              cases first
              exact List.nil_prefix
        · next solid =>
            rw [if_neg solid]
            cases pieces : rest.splitOnP isBlank with
            | nil => exact absurd pieces (List.splitOnP_ne_nil _ _)
            | cons first others =>
                rw [pieces] at piece ih
                have starts := (ih (List.mem_cons_self (a := first) (l := others))).1 rfl
                rcases List.mem_cons.mp piece with rfl | later
                · have longer : c :: first <+: c :: rest := List.cons_prefix_cons.mpr ⟨rfl, starts⟩
                  exact ⟨fun _ => longer, longer.isInfix⟩
                · refine ⟨fun same => ?_, ?_⟩
                  · cases same
                    exact List.cons_prefix_cons.mpr ⟨rfl, starts⟩
                  · exact (ih (List.mem_cons_of_mem first later)).2.trans
                      (List.suffix_cons c rest).isInfix
  exact parts.2

/-- Up to its line comment, no comment begins in a live directive. -/
theorem opening_not_infix_ofLine? (commentless : Comment.Commentless line)
    (found : Directive.ofLine? line = some directive) :
    ¬ opening <:+: upTo lineMarker directive := by
  unfold Directive.ofLine? Directive.occurrence? at found
  cases cut : cut? Directive.marker (firstLine line) with
  | none => simp [cut] at found
  | some parts =>
      obtain ⟨before, after⟩ := parts
      cases hidden : Comment.hides before '#' with
      | true => simp [cut, hidden] at found
      | false =>
          simp only [cut, hidden, Bool.false_eq_true, if_false, Option.map_some,
            Option.some.injEq] at found
          have front : upTo lineMarker directive <+: Directive.marker ++ after :=
            (prefix_upTo lineMarker directive).trans (found ▸ prefix_trimEnd _ _)
          obtain ⟨back, whole⟩ := front
          have line_eq : line = before ++ upTo lineMarker directive ++
              (back ++ fromLineEnd line) := by
            calc
              line = firstLine line ++ fromLineEnd line := (firstLine_append_fromLineEnd line).symm
              _ = before ++ (Directive.marker ++ after) ++ fromLineEnd line := by
                rw [eq_append_of_cut? cut, List.append_assoc before]
              _ = before ++ upTo lineMarker directive ++ (back ++ fromLineEnd line) := by
                rw [← whole]
                simp only [List.append_assoc]
          rw [line_eq] at commentless
          have unhidden : ¬ lineMarker <:+: before := by
            rw [← Comment.hides_hash_iff, hidden]
            simp
          have apart := marker_not_infix_upTo lineMarker (by decide) directive
          have noLine : ¬ lineMarker <:+: before ++ upTo lineMarker directive := by
            cases ahead : upTo lineMarker directive with
            | nil => simpa using unhidden
            | cons c tail =>
                rw [ahead] at whole apart
                have hash : c = '#' := (List.cons.inj whole).1
                subst hash
                apply not_infix_append_cons (by decide) unhidden
                exact fun inside => apart (inside.trans (List.suffix_cons _ tail).isInfix)
          intro inside
          exact commentless.opening_not_infix noLine
            (inside.trans (List.suffix_append before _).isInfix)

/-- The options of an indexed source are plain. -/
theorem isPlain_of_mem_index (indexed : group ∈ (index source known).1)
    (member : option ∈ group.options) : IsPlain option := by
  rw [index_eq_declarations] at indexed
  rcases mem_options_of_mem_groupsOfLines indexed member with
    rfl | ⟨directive, live, word, inside, named, rfl⟩
  · exact ⟨by simp, by simp [lineMarker], by simp [opening], by simp⟩
  · obtain ⟨line, among, found⟩ := List.mem_filterMap.mp live
    have commentless := (Comment.commentless_strip source).lines line among
    have part := infix_of_mem_words inside
    refine ⟨?_, ?_, ?_, ?_⟩
    · rw [String.toList_ofList]
      exact solid_of_mem_words inside
    · rw [String.toList_ofList]
      exact fun within => marker_not_infix_upTo lineMarker (by decide) _ (within.trans part)
    · rw [String.toList_ofList]
      exact fun within => opening_not_infix_ofLine? commentless found (within.trans part)
    · intro same
      apply named
      have token := congrArg String.toList same
      rwa [String.toList_ofList] at token

end Keyword

end ShaderVariants
