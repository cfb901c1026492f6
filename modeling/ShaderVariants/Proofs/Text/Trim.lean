import Mathlib.Data.List.DropRight
import ShaderVariants.Proofs.Text.Search
import ShaderVariants.Text.Basic

/-!
What trimming takes away: the characters at an end that are to be dropped, all of them and no
others.
-/
namespace ShaderVariants.Text

variable {drop : Char → Bool} {text front core back : Text}

theorem trimEnd_eq_rdropWhile (drop : Char → Bool) (text : Text) :
    trimEnd drop text = text.rdropWhile drop :=
  rfl

theorem trimEnd_append (dropped : ∀ c ∈ back, drop c = true) (front : Text) :
    trimEnd drop (front ++ back) = trimEnd drop front := by
  have dropped_reverse : ∀ c ∈ back.reverse, drop c = true := fun c member =>
    dropped c (List.mem_reverse.mp member)
  rw [trimEnd, List.reverse_append, List.dropWhile_append_of_pos dropped_reverse, trimEnd]

theorem trimEnd_of_kept (kept : ∀ c ∈ text.getLast?, drop c = false) : trimEnd drop text = text := by
  refine List.rdropWhile_eq_self_iff.mpr fun nonempty => ?_
  simp [kept _ (List.getLast_mem_getLast? nonempty)]

theorem trimEnd_congr {other : Char → Bool} (agree : ∀ c ∈ text, drop c = other c) :
    trimEnd drop text = trimEnd other text := by
  induction text using List.reverseRecOn with
  | nil => rfl
  | append_singleton text last ih =>
      have front := ih fun c member => agree c (List.mem_append_left [last] member)
      have behind := agree last List.mem_concat_self
      simp only [trimEnd_eq_rdropWhile, List.rdropWhile_concat, behind]
      split
      · exact front
      · rfl

theorem exists_append_trimEnd (drop : Char → Bool) (text : Text) :
    ∃ back, text = trimEnd drop text ++ back ∧ ∀ c ∈ back, drop c = true := by
  refine ⟨text.rtakeWhile drop, List.rdropWhile_append_rtakeWhile.symm, ?_⟩
  exact fun c => List.mem_rtakeWhile_imp

/-- Trimming one character away leaves the text that does not end with it and that only such
characters follow. -/
theorem trimEnd_eq_iff {c : Char} :
    trimEnd (· = c) text = core ↔
      (∃ count, text = core ++ List.replicate count c) ∧ core.getLast? ≠ some c := by
  constructor
  · rintro rfl
    obtain ⟨back, whole, dropped⟩ := exists_append_trimEnd (· = c) text
    have only : back = List.replicate back.length c :=
      List.eq_replicate_iff.mpr ⟨rfl, fun d member => by simpa using dropped d member⟩
    refine ⟨⟨back.length, by rw [← only, ← whole]⟩, fun ends => ?_⟩
    rw [trimEnd_eq_rdropWhile] at ends
    have nonempty : text.rdropWhile (· = c) ≠ [] := fun nothing => by simp [nothing] at ends
    have kept := List.rdropWhile_last_not (· = c) text nonempty
    rw [List.getLast?_eq_some_getLast nonempty] at ends
    exact kept (by simpa using ends)
  · rintro ⟨⟨count, rfl⟩, stops⟩
    rw [trimEnd_append fun d member => by simpa using List.eq_of_mem_replicate member]
    refine trimEnd_of_kept fun d ends => ?_
    simpa using fun same : d = c => stops (same ▸ ends)

/-- A text without blanks is what is left when the blanks around it are taken away. -/
theorem trim_of_solid (front_blank : ∀ c ∈ front, isBlank c = true)
    (back_blank : ∀ c ∈ back, isBlank c = true) (nonempty : core ≠ [])
    (solid : ∀ c ∈ core, isBlank c = false) : trim (front ++ (core ++ back)) = core := by
  rw [trim, List.dropWhile_append_of_pos front_blank]
  cases core with
  | nil => exact absurd rfl nonempty
  | cons c rest =>
      rw [List.cons_append, List.dropWhile_cons_of_neg (by simp [solid c List.mem_cons_self]),
        ← List.cons_append, trimEnd_append back_blank]
      exact trimEnd_of_kept fun last ends => solid last (List.mem_of_getLast? ends)

theorem exists_append_trim (text : Text) :
    ∃ front back, text = front ++ (trim text ++ back) ∧ (∀ c ∈ front, isBlank c = true) ∧
      ∀ c ∈ back, isBlank c = true := by
  obtain ⟨back, behind, back_blank⟩ := exists_append_trimEnd isBlank (text.dropWhile isBlank)
  refine ⟨text.takeWhile isBlank, back, ?_, fun c => List.mem_takeWhile_imp, back_blank⟩
  rw [trim, ← behind, List.takeWhile_append_dropWhile]

end ShaderVariants.Text
