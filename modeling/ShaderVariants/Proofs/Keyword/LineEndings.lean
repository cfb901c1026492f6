import ShaderVariants.Proofs.Keyword.Index
import ShaderVariants.Proofs.Text.Trim

/-!
Line breaks with a carriage return in front of them.

A carriage return is never part of a marker, and in front of a line break it is in a block comment
exactly if the line break is.  So leaving the comments out and putting the carriage returns in can
change places (`remainder_withReturns`), and those at the ends of directives are trimmed away.
-/
namespace ShaderVariants

namespace Text

variable {line rest : Text} {c first second : Char}

/-- `text` with a carriage return in front of each line break. -/
def withReturns (text : Text) : Text :=
  text.flatMap fun c => if c = '\n' then ['\r', '\n'] else [c]

theorem withReturns_break (rest : Text) :
    withReturns ('\n' :: rest) = '\r' :: '\n' :: withReturns rest :=
  rfl

theorem withReturns_cons (inside : c ≠ '\n') (rest : Text) :
    withReturns (c :: rest) = c :: withReturns rest := by
  rw [withReturns, List.flatMap_cons, if_neg inside]
  rfl

theorem withReturns_append (front back : Text) :
    withReturns (front ++ back) = withReturns front ++ withReturns back :=
  List.flatMap_append

theorem withReturns_of_unbroken (unbroken : '\n' ∉ line) : withReturns line = line := by
  induction line with
  | nil => rfl
  | cons c line ih =>
      simp only [List.mem_cons, not_or] at unbroken
      rw [withReturns_cons (Ne.symm unbroken.1), ih unbroken.2]

/-- No marker of two characters comes about, since it would begin with the character it began with
before. -/
theorem apart_withReturns (clean : second ≠ '\r')
    (apart : ∀ tail, c = first → rest = second :: tail → False) :
    ∀ tail, c = first → withReturns rest = second :: tail → False := by
  intro tail same whole
  cases rest with
  | nil => cases whole
  | cons d rest =>
      by_cases ends : d = '\n'
      · subst ends
        exact clean (List.cons.inj whole).1.symm
      · rw [withReturns_cons ends] at whole
        exact apart rest same (congrArg (· :: rest) (List.cons.inj whole).1)

end Text

open Text

namespace Comment

theorem remainder_withReturns (mode : Mode) (text : Text) :
    remainder mode (withReturns text) = withReturns (remainder mode text) := by
  unfold remainder
  fun_induction lex mode text with
  | case1 mode => cases mode <;> rfl
  | case2 rest ih => exact congrArg (lineMarker ++ ·) ih
  | case3 rest ih => exact ih
  | case4 c rest noLine noBlock ih =>
      by_cases ends : c = '\n'
      · subst ends
        exact congrArg (['\r', '\n'] ++ ·) ih
      · rw [withReturns_cons ends, lex, List.flatMap_cons, List.flatMap_cons, ih,
          withReturns_append]
        · exact congrArg (· ++ _) (withReturns_cons ends []).symm
        · exact apart_withReturns (by decide) noLine
        · exact apart_withReturns (by decide) noBlock
  | case5 rest ih => exact congrArg (['\r', '\n'] ++ ·) ih
  | case6 c rest inside ih =>
      rw [withReturns_cons inside, lex, List.flatMap_cons, List.flatMap_cons, ih,
        withReturns_append]
      · exact congrArg (· ++ _) (withReturns_cons inside []).symm
      · exact inside
  | case7 rest ih => exact ih
  | case8 c rest inside ih =>
      by_cases ends : c = '\n'
      · subst ends
        exact ih
      · rw [withReturns_cons ends, lex]
        · exact ih
        · exact apart_withReturns (by decide) inside

theorem strip_withReturns (text : Text) : strip (withReturns text) = withReturns (strip text) := by
  rw [strip_eq_remainder, strip_eq_remainder, remainder_withReturns]

end Comment

namespace Directive

variable {line : Text}

/-- A carriage return at the end of a line is not part of the directive on it. -/
theorem ofLine?_return (unbroken : '\n' ∉ line) : ofLine? (line ++ ['\r']) = ofLine? line := by
  have longer : '\n' ∉ line ++ ['\r'] := by simpa using unbroken
  rw [ofLine?, ofLine?, occurrence?, occurrence?, firstLine_of_unbroken longer,
    firstLine_of_unbroken unbroken]
  cases found : cut? marker line with
  | none =>
      have apart := cut?_append_cons (c := '\r') (by decide) (cut?_eq_none_iff.mp found) []
      rw [apart]
      rfl
  | some parts =>
      obtain ⟨before, after⟩ := parts
      have trimmed : trimEnd (· = '\r') (marker ++ (after ++ ['\r'])) =
          trimEnd (· = '\r') (marker ++ after) := by
        rw [← List.append_assoc, trimEnd_append (by simp)]
      rw [cut?_append_of_found found ['\r']]
      simp only [trimmed]

theorem filterMap_ofLine?_withReturns (text : Text) :
    (lines (withReturns text)).filterMap ofLine? = (lines text).filterMap ofLine? := by
  induction text using lines_induction with
  | last line unbroken => rw [withReturns_of_unbroken unbroken]
  | next line rest unbroken ih =>
      have longer : '\n' ∉ line ++ ['\r'] := by simpa using unbroken
      have whole : withReturns (line ++ '\n' :: rest) =
          line ++ ['\r'] ++ '\n' :: withReturns rest := by
        rw [withReturns_append, withReturns_of_unbroken unbroken, withReturns_break,
          List.append_assoc]
        rfl
      rw [whole, lines_cons_line longer, lines_cons_line unbroken, List.filterMap_cons,
        List.filterMap_cons, ofLine?_concat longer, ofLine?_concat unbroken,
        ofLine?_return unbroken, ih]

end Directive

namespace Keyword

/-- Carriage returns in front of the line breaks change neither the groups that a source declares
nor the words that are recorded. -/
theorem index_withReturns (source : Text) (known : Vocabulary) :
    index (withReturns source) known = index source known := by
  rw [index_eq_declarations, index_eq_declarations, Comment.strip_withReturns, declarations,
    Directive.filterMap_ofLine?_withReturns, declarations]

end Keyword

end ShaderVariants
