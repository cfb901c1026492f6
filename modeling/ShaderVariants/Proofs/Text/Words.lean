import Mathlib.Data.List.TakeWhile
import ShaderVariants.Text.Basic

/-!
The words of a text.

`Spaced` takes a text apart into blanks and words as they stand, and `spaced_iff` says that there is
one way to do so, which is how `words` does it.
-/
namespace ShaderVariants.Text

variable {text word rest : Text} {found : List Text} {c : Char}

/-- The words of a text: each ends at a blank or with the text. -/
inductive Spaced : Text → List Text → Prop where
  | done : Spaced [] []
  | blank {c : Char} {rest : Text} {found : List Text} (white : isBlank c = true)
      (later : Spaced rest found) : Spaced (c :: rest) found
  | word {word rest : Text} {found : List Text} (nonempty : word ≠ [])
      (solid : ∀ c ∈ word, isBlank c = false) (ended : ∀ c ∈ rest.head?, isBlank c = true)
      (later : Spaced rest found) : Spaced (word ++ rest) (word :: found)

theorem words_cons_blank (white : isBlank c = true) (rest : Text) :
    words (c :: rest) = words rest := by
  rw [words, List.splitOnP_cons_eq_if_modifyHead, if_pos white]
  rfl

theorem words_append (nonempty : word ≠ []) (solid : ∀ c ∈ word, isBlank c = false)
    (ended : ∀ c ∈ rest.head?, isBlank c = true) : words (word ++ rest) = word :: words rest := by
  have kept : (!word.isEmpty) = true := by simpa using nonempty
  cases rest with
  | nil =>
      rw [List.append_nil, words, List.splitOnP_eq_singleton solid,
        List.filter_cons_of_pos (by exact kept)]
      rfl
  | cons c rest =>
      have white : isBlank c = true := ended c rfl
      rw [words_cons_blank white, words, List.splitOnP_append_cons_of_forall_mem solid c white,
        List.filter_cons_of_pos (by exact kept)]
      rfl

theorem spaced_words (text : Text) : Spaced text (words text) := by
  cases text with
  | nil => exact .done
  | cons c rest =>
      by_cases white : isBlank c = true
      · rw [words_cons_blank white]
        exact .blank white (spaced_words rest)
      · -- The word goes on to the next blank, and what is left is shorter by the whole word.
        have split := List.takeWhile_append_dropWhile (p := (!isBlank ·)) (l := c :: rest)
        have first : (!isBlank c) = true := by simpa using white
        have nonempty : (c :: rest).takeWhile (!isBlank ·) ≠ [] := by
          rw [List.takeWhile_cons_of_pos (by exact first)]
          exact List.cons_ne_nil c _
        have solid : ∀ d ∈ (c :: rest).takeWhile (!isBlank ·), isBlank d = false := by
          intro d member
          simpa using List.mem_takeWhile_imp member
        have ended : ∀ d ∈ ((c :: rest).dropWhile (!isBlank ·)).head?, isBlank d = true := by
          intro d starts
          have stopped := List.head?_dropWhile_not (!isBlank ·) (c :: rest)
          rw [Option.mem_def.mp starts] at stopped
          simpa using stopped
        have shorter : ((c :: rest).dropWhile (!isBlank ·)).length < (c :: rest).length := by
          have lengths := congrArg List.length split
          have positive := List.length_pos_iff.mpr nonempty
          rw [List.length_append] at lengths
          omega
        have spaced := Spaced.word nonempty solid ended
          (spaced_words ((c :: rest).dropWhile (!isBlank ·)))
        rwa [← words_append nonempty solid ended, split] at spaced
termination_by text.length
decreasing_by
  · exact Nat.lt_succ_self rest.length
  · exact shorter

theorem spaced_iff : Spaced text found ↔ found = words text := by
  constructor
  · intro spaced
    induction spaced with
    | done => rfl
    | blank white later ih => rw [words_cons_blank white, ih]
    | word nonempty solid ended later ih => rw [words_append nonempty solid ended, ih]
  · rintro rfl
    exact spaced_words text

end ShaderVariants.Text
