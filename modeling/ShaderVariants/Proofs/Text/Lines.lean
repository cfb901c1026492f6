import ShaderVariants.Proofs.Text.Search

/-!
The lines of a text.

`lines` cuts a text behind each line break.  What is proved line by line goes by `lines_induction`,
and `lines_append` says that a text that ends where a line does can be read by itself.
-/
namespace ShaderVariants.Text

/-- The lines of a text, each with the line break that ends it; the last one may lack it. -/
def lines : Text → List Text
  | [] => []
  | c :: rest =>
      if c = '\n' then [c] :: lines rest
      else
        match lines rest with
        | [] => [[c]]
        | line :: below => (c :: line) :: below

/-- Whether a text ends where a line does. -/
def Closed (text : Text) : Prop :=
  ∀ c ∈ text.getLast?, c = '\n'

variable {line front back rest text : Text}

theorem lines_induction {motive : Text → Prop} (last : ∀ line, '\n' ∉ line → motive line)
    (next : ∀ line rest, '\n' ∉ line → motive rest → motive (line ++ '\n' :: rest))
    (text : Text) : motive text := by
  have split := firstLine_append_fromLineEnd text
  rcases fromLineEnd_cases text with none_left | ⟨below, some_left⟩
  · rw [none_left, List.append_nil] at split
    exact split ▸ last _ (firstLine_unbroken text)
  · rw [some_left] at split
    have shorter : below.length < text.length := by
      rw [← split, List.length_append, List.length_cons]
      omega
    have remaining := lines_induction last next below
    exact split ▸ next _ below (firstLine_unbroken text) remaining
termination_by text.length

theorem lines_of_unbroken (unbroken : '\n' ∉ line) (nonempty : line ≠ []) :
    lines line = [line] := by
  induction line with
  | nil => exact absurd rfl nonempty
  | cons c line ih =>
      simp only [List.mem_cons, not_or] at unbroken
      rw [lines, if_neg (Ne.symm unbroken.1)]
      cases line with
      | nil => rfl
      | cons d line => rw [ih unbroken.2 (List.cons_ne_nil d line)]

theorem lines_cons_line (unbroken : '\n' ∉ line) (rest : Text) :
    lines (line ++ '\n' :: rest) = (line ++ ['\n']) :: lines rest := by
  induction line with
  | nil => rfl
  | cons c line ih =>
      simp only [List.mem_cons, not_or] at unbroken
      rw [List.cons_append, lines, if_neg (Ne.symm unbroken.1), ih unbroken.2]
      rfl

theorem flatten_lines (text : Text) : (lines text).flatten = text := by
  induction text using lines_induction with
  | last line unbroken =>
      by_cases empty : line = []
      · rw [empty]
        rfl
      · rw [lines_of_unbroken unbroken empty, List.flatten_singleton]
  | next line rest unbroken ih =>
      rw [lines_cons_line unbroken, List.flatten_cons, ih, List.append_assoc]
      rfl

/-- The last line of a text does not reach above a line break. -/
theorem lastLine_break (line below : Text) : lastLine (line ++ '\n' :: below) = lastLine below := by
  rw [lastLine_append, if_pos List.mem_cons_self, ← List.singleton_append, lastLine_append]
  by_cases broken : '\n' ∈ below
  · rw [if_pos broken]
  · rw [if_neg broken, lastLine_of_unbroken broken]
    rfl

theorem firstLine_of_unbroken (unbroken : '\n' ∉ line) : firstLine line = line := by
  rw [← List.append_nil line, firstLine_append unbroken]
  rfl

theorem fromLineEnd_of_unbroken (unbroken : '\n' ∉ line) : fromLineEnd line = [] := by
  rw [← List.append_nil line, fromLineEnd_append unbroken]
  rfl

theorem closed_nil : Closed [] := by
  simp [Closed]

theorem closed_concat (line : Text) : Closed (line ++ ['\n']) := by
  simp [Closed]

theorem Closed.append (front_closed : Closed front) (closed : Closed back) :
    Closed (front ++ back) := by
  intro last found
  rw [List.getLast?_append] at found
  rcases Option.or_eq_some_iff.mp found with behind | ⟨-, ahead⟩
  · exact closed last behind
  · exact front_closed last ahead

theorem lastLine_of_closed (closed : Closed front) : lastLine front = [] := by
  rcases List.eq_nil_or_concat front with rfl | ⟨line, last, rfl⟩
  · rfl
  · have ends : last = '\n' := closed last (by simp)
    rw [List.concat_eq_append, ends, lastLine_append, if_pos List.mem_cons_self]
    rfl

theorem lastLine_closed_append (closed : Closed front)
    (unbroken : '\n' ∉ line) : lastLine (front ++ line) = line := by
  rw [lastLine_append, if_neg unbroken, lastLine_of_closed closed, List.nil_append]

/-- What lies above the last line of a text ends where a line does. -/
theorem exists_closed_append_lastLine (text : Text) :
    ∃ above, text = above ++ lastLine text ∧ Closed above := by
  refine ⟨(fromLineEnd text.reverse).reverse, ?_, ?_⟩
  · have whole := congrArg List.reverse (firstLine_append_fromLineEnd text.reverse)
    rw [List.reverse_append, List.reverse_reverse] at whole
    exact whole.symm
  · rcases fromLineEnd_cases text.reverse with nothing | ⟨below, more⟩
    · rw [nothing]
      exact closed_nil
    · rw [more, List.reverse_cons]
      exact closed_concat _

theorem eq_nil_of_closed (closed : Closed line) (unbroken : '\n' ∉ line) : line = [] := by
  cases found : line.getLast? with
  | none => exact List.getLast?_eq_none_iff.mp found
  | some c =>
      have member := List.mem_of_getLast? found
      rw [closed c found] at member
      exact absurd member unbroken

theorem closed_of_cons_line (closed : Closed (line ++ '\n' :: rest)) : Closed rest := by
  intro last found
  refine closed last ?_
  have behind : rest.getLast? = some last := found
  rw [List.getLast?_append, List.getLast?_cons, behind]
  rfl

/-- A text that ends where a line does has its lines for itself. -/
theorem lines_append (closed : Closed front) (back : Text) :
    lines (front ++ back) = lines front ++ lines back := by
  induction front using lines_induction with
  | last line unbroken =>
      rw [eq_nil_of_closed closed unbroken]
      rfl
  | next line rest unbroken ih =>
      rw [List.append_assoc, List.cons_append, lines_cons_line unbroken, lines_cons_line unbroken,
        ih (closed_of_cons_line closed), List.cons_append]

end ShaderVariants.Text
