import Mathlib.Data.List.TakeWhile
import ShaderVariants.Text.Offset

/-!
Laws of the searches in a text.

`mentions_iff` ties the one search to the infix order of lists, and `lastLine_append` says what the
last line of a text is when more text follows it.  Scanners are compared through these two.
-/
namespace ShaderVariants.Text

theorem after?_append (marker after : Text) : after? marker (marker ++ after) = some after := by
  induction marker with
  | nil => rfl
  | cons m marker ih => simpa [after?] using ih

theorem after?_eq_none_iff {marker text : Text} :
    after? marker text = none ↔ ¬ marker <+: text := by
  constructor
  · rintro missing ⟨after, rfl⟩
    simp [after?_append] at missing
  · intro absent
    cases found : after? marker text with
    | none => rfl
    | some after => exact absurd ⟨after, (eq_append_of_after? found).symm⟩ absent

theorem cut?_append (marker after : Text) : cut? marker (marker ++ after) = some ([], after) := by
  cases marker with
  | nil => cases after <;> simp [cut?, after?]
  | cons m marker => rw [List.cons_append, cut?, ← List.cons_append, after?_append]

theorem cut?_cons {marker rest : Text} {c : Char} (apart : ¬ marker <+: c :: rest) :
    cut? marker (c :: rest) =
      (cut? marker rest).map fun (before, after) => (c :: before, after) := by
  rw [cut?, after?_eq_none_iff.mpr apart]

/-- A marker is mentioned exactly where the text has it as a part. -/
theorem mentions_iff {marker text : Text} : mentions marker text = true ↔ marker <:+: text := by
  induction text with
  | nil => cases marker <;> simp [mentions, cut?]
  | cons c rest ih =>
      rw [List.infix_cons_iff, ← ih]
      by_cases starts : marker <+: c :: rest
      · obtain ⟨after, whole⟩ := starts
        simp [mentions, ← whole, cut?_append]
      · simp [mentions, cut?_cons starts, starts]

theorem cut?_eq_none_iff {marker text : Text} : cut? marker text = none ↔ ¬ marker <:+: text := by
  rw [← mentions_iff, mentions]
  simp

theorem cut?_eq_none_of_suffix {marker text rest : Text} (suffix : rest <:+ text)
    (absent : cut? marker text = none) : cut? marker rest = none :=
  cut?_eq_none_iff.mpr fun inside =>
    cut?_eq_none_iff.mp absent (inside.trans suffix.isInfix)

/-- Line breaks in `back` end every line that begins in `front`. -/
theorem lastLine_append (front back : Text) :
    lastLine (front ++ back) = if '\n' ∈ back then lastLine back else lastLine front ++ back := by
  rw [lastLine, List.reverse_append, List.takeWhile_append]
  by_cases broken : '\n' ∈ back
  · have short : (back.reverse.takeWhile (· ≠ '\n')).length ≠ back.reverse.length := by
      intro whole
      have same := (List.takeWhile_prefix (p := (· ≠ '\n')) (l := back.reverse)).eq_of_length whole
      have clean : '\n' ∈ back.reverse.takeWhile (· ≠ '\n') := by
        rw [same]
        exact List.mem_reverse.mpr broken
      simpa using List.mem_takeWhile_imp clean
    rw [if_neg short, if_pos broken, lastLine]
  · have clean : back.reverse.takeWhile (· ≠ '\n') = back.reverse := by
      rw [List.takeWhile_eq_self_iff]
      intro c member
      have inside := List.mem_reverse.mp member
      simpa using fun same : c = '\n' => broken (same ▸ inside)
    rw [if_pos (congrArg List.length clean), if_neg broken]
    simp [lastLine]

theorem lastLine_of_unbroken {text : Text} (unbroken : '\n' ∉ text) : lastLine text = text := by
  have whole := lastLine_append [] text
  rwa [if_neg unbroken] at whole

theorem lastLine_unbroken (text : Text) : '\n' ∉ lastLine text := by
  intro member
  simpa using List.mem_takeWhile_imp (List.mem_reverse.mp member)

theorem lastLine_lastLine (text : Text) : lastLine (lastLine text) = lastLine text :=
  lastLine_of_unbroken (lastLine_unbroken text)

theorem lastLine_lastLine_append (front back : Text) :
    lastLine (lastLine front ++ back) = lastLine (front ++ back) := by
  rw [lastLine_append, lastLine_append front, lastLine_lastLine]

theorem firstLine_append_fromLineEnd (text : Text) : firstLine text ++ fromLineEnd text = text :=
  List.takeWhile_append_dropWhile

theorem firstLine_unbroken (text : Text) : '\n' ∉ firstLine text := by
  intro member
  simpa using List.mem_takeWhile_imp member

theorem firstLine_append {line : Text} (unbroken : '\n' ∉ line) (rest : Text) :
    firstLine (line ++ rest) = line ++ firstLine rest := by
  refine List.takeWhile_append_of_pos fun c member => ?_
  simpa using fun same : c = '\n' => unbroken (same ▸ member)

theorem fromLineEnd_append {line : Text} (unbroken : '\n' ∉ line) (rest : Text) :
    fromLineEnd (line ++ rest) = fromLineEnd rest := by
  refine List.dropWhile_append_of_pos fun c member => ?_
  simpa using fun same : c = '\n' => unbroken (same ▸ member)

theorem fromLineEnd_cases (text : Text) :
    fromLineEnd text = [] ∨ ∃ below, fromLineEnd text = '\n' :: below := by
  induction text with
  | nil => exact .inl rfl
  | cons c rest ih =>
      by_cases ends : c = '\n'
      · exact .inr ⟨rest, by simp [fromLineEnd, ends]⟩
      · rw [← List.singleton_append, fromLineEnd_append (by simpa using Ne.symm ends)]
        exact ih

theorem exists_fromLineEnd_eq {text : Text} (broken : '\n' ∈ text) :
    ∃ below, fromLineEnd text = '\n' :: below := by
  refine (fromLineEnd_cases text).resolve_left fun nothing => ?_
  have whole := firstLine_append_fromLineEnd text
  rw [nothing, List.append_nil] at whole
  exact firstLine_unbroken text (whole.symm ▸ broken)

theorem firstLine_broken_append {front : Text} (broken : '\n' ∈ front) (back : Text) :
    firstLine (front ++ back) = firstLine front := by
  obtain ⟨below, more⟩ := exists_fromLineEnd_eq broken
  calc firstLine (front ++ back)
      = firstLine (firstLine front ++ ('\n' :: below ++ back)) := by
        rw [← more, ← List.append_assoc, firstLine_append_fromLineEnd]
    _ = firstLine front := by
        rw [firstLine_append (firstLine_unbroken front)]
        exact List.append_nil _

theorem fromLineEnd_broken_append {front : Text} (broken : '\n' ∈ front) (back : Text) :
    fromLineEnd (front ++ back) = fromLineEnd front ++ back := by
  obtain ⟨below, more⟩ := exists_fromLineEnd_eq broken
  calc fromLineEnd (front ++ back)
      = fromLineEnd (firstLine front ++ ('\n' :: below ++ back)) := by
        rw [← more, ← List.append_assoc, firstLine_append_fromLineEnd]
    _ = fromLineEnd front ++ back := by
        rw [fromLineEnd_append (firstLine_unbroken front), more]
        rfl

theorem cut?_append_of_found {marker text before after : Text}
    (found : cut? marker text = some (before, after)) (rest : Text) :
    cut? marker (text ++ rest) = some (before, after ++ rest) := by
  induction text generalizing before with
  | nil =>
      cases marker with
      | nil =>
          cases found
          exact cut?_append [] rest
      | cons m marker => simp [cut?] at found
  | cons c tail ih =>
      by_cases starts : marker <+: c :: tail
      · obtain ⟨follows, whole⟩ := starts
        rw [← whole, cut?_append] at found
        cases found
        rw [← whole, List.append_assoc, cut?_append]
      · rw [cut?_cons starts] at found
        simp only [Option.map_eq_some_iff, Prod.mk.injEq, Prod.exists] at found
        obtain ⟨front, back, inside, rfl, rfl⟩ := found
        have apart : ¬ marker <+: c :: (tail ++ rest) := by
          intro longer
          have fits : marker.length ≤ (c :: tail).length := by
            rw [eq_append_of_cut? inside]
            simp only [List.length_cons, List.length_append]
            omega
          exact starts (List.prefix_of_prefix_length_le longer (List.prefix_append _ rest) fits)
        rw [List.cons_append, cut?_cons apart, ih inside]
        rfl

theorem cut?_of_append (front : Text) {marker text before after : Text}
    (found : cut? marker (front ++ text) = some (front ++ before, after)) :
    cut? marker text = some (before, after) := by
  induction front with
  | nil => exact found
  | cons c front ih =>
      by_cases starts : marker <+: c :: (front ++ text)
      · obtain ⟨follows, whole⟩ := starts
        rw [List.cons_append, ← whole, cut?_append] at found
        simp at found
      · rw [List.cons_append, cut?_cons starts] at found
        simp only [Option.map_eq_some_iff, Prod.mk.injEq, Prod.exists] at found
        obtain ⟨inner, tail, inside, same, rfl⟩ := found
        have front_eq : inner = front ++ before := (List.cons.inj same).2
        exact ih (front_eq ▸ inside)

/-- What lies above a line break in front of the marker does not matter to its search. -/
theorem cut?_fromLineEnd {marker text before after : Text}
    (found : cut? marker text = some (before, after)) (broken : '\n' ∈ before) :
    firstLine text = firstLine before ∧
      cut? marker (fromLineEnd text) = some (fromLineEnd before, after) := by
  have split := firstLine_append_fromLineEnd before
  have whole : text = firstLine before ++ (fromLineEnd before ++ marker ++ after) := by
    rw [← List.append_assoc, ← List.append_assoc, split]
    exact eq_append_of_cut? found
  rcases fromLineEnd_cases before with last | ⟨below, more⟩
  · rw [last, List.append_nil] at split
    exact absurd broken (split ▸ firstLine_unbroken before)
  · have unbroken := firstLine_unbroken before
    have tail : fromLineEnd text = fromLineEnd before ++ marker ++ after := by
      rw [whole, fromLineEnd_append unbroken, more]
      rfl
    constructor
    · rw [whole, firstLine_append unbroken, more]
      exact List.append_nil _
    · rw [tail]
      refine cut?_of_append (firstLine before) ?_
      rw [← whole, split, found]

theorem lastLine_fromLineEnd {text : Text} (broken : '\n' ∈ text) :
    lastLine (fromLineEnd text) = lastLine text := by
  have split := firstLine_append_fromLineEnd text
  have below : '\n' ∈ fromLineEnd text := by
    rw [← split, List.mem_append] at broken
    exact broken.resolve_left (firstLine_unbroken text)
  have last := lastLine_append (firstLine text) (fromLineEnd text)
  rw [split, if_pos below] at last
  exact last.symm

theorem exists_append_lastLine (text : Text) : ∃ above, text = above ++ lastLine text := by
  refine ⟨(text.reverse.dropWhile (· ≠ '\n')).reverse, ?_⟩
  rw [lastLine, ← List.reverse_append, List.takeWhile_append_dropWhile, List.reverse_reverse]

theorem prefix_of_prefix_append_cons {marker line below : Text} {c : Char} (clean : c ∉ marker)
    (starts : marker <+: line ++ c :: below) : marker <+: line := by
  rcases List.prefix_or_prefix_of_prefix starts (List.prefix_append line _) with inside | longer
  · exact inside
  · obtain ⟨more, rfl⟩ := longer
    rw [List.prefix_append_right_inj] at starts
    cases more with
    | nil => simp
    | cons d more =>
        have ends := (List.cons_prefix_cons.mp starts).1
        simp [ends] at clean

/-- A marker lies on one side of each character that it does not have. -/
theorem cut?_append_cons {marker line : Text} {c : Char} (clean : c ∉ marker)
    (absent : ¬ marker <:+: line) (below : Text) :
    cut? marker (line ++ c :: below) =
      (cut? marker (c :: below)).map fun (before, after) => (line ++ before, after) := by
  induction line with
  | nil => simp
  | cons d line ih =>
      rw [List.infix_cons_iff, not_or] at absent
      have apart : ¬ marker <+: d :: (line ++ c :: below) := fun starts =>
        absent.1 (prefix_of_prefix_append_cons clean starts)
      rw [List.cons_append, cut?_cons apart, ih absent.2, Option.map_map]
      rfl

theorem not_infix_append_cons {marker line below : Text} {c : Char} (clean : c ∉ marker)
    (absent : ¬ marker <:+: line) (absent_below : ¬ marker <:+: below) :
    ¬ marker <:+: line ++ c :: below := by
  have apart : ¬ marker <+: c :: below := by
    rintro ⟨rest, whole⟩
    cases marker with
    | nil => exact absent List.nil_infix
    | cons m marker =>
        cases whole
        exact clean List.mem_cons_self
  rw [← cut?_eq_none_iff, cut?_append_cons clean absent, cut?_cons apart,
    cut?_eq_none_iff.mpr absent_below]
  rfl

/-- A cut is made in front of every other place where the marker stands. -/
theorem prefix_of_cut? {marker text before after front back : Text}
    (found : cut? marker text = some (before, after)) (stands : text = front ++ (marker ++ back)) :
    before <+: front := by
  induction text generalizing before front with
  | nil =>
      obtain ⟨rfl, rest⟩ := List.append_eq_nil_iff.mp stands.symm
      obtain ⟨rfl, -⟩ := List.append_eq_nil_iff.mp rest
      cases found
      exact List.nil_prefix
  | cons c rest ih =>
      by_cases starts : marker <+: c :: rest
      · obtain ⟨tail, whole⟩ := starts
        rw [← whole, cut?_append] at found
        cases found
        exact List.nil_prefix
      · cases front with
        | nil => exact absurd ⟨back, stands.symm⟩ starts
        | cons d front =>
            obtain ⟨rfl, below⟩ := List.cons.inj stands
            rw [cut?_cons starts] at found
            simp only [Option.map_eq_some_iff, Prod.mk.injEq, Prod.exists] at found
            obtain ⟨inner, tail, inside, rfl, rfl⟩ := found
            exact List.cons_prefix_cons.mpr ⟨rfl, ih inside below⟩

/-- A cut is made where the marker stands first. -/
theorem cut?_eq_some_iff {marker text before after : Text} :
    cut? marker text = some (before, after) ↔
      text = before ++ (marker ++ after) ∧
        ∀ front back, text = front ++ (marker ++ back) → before <+: front := by
  constructor
  · intro found
    refine ⟨?_, fun front back => prefix_of_cut? found⟩
    rw [eq_append_of_cut? found, List.append_assoc]
  · rintro ⟨stands, first⟩
    cases found : cut? marker text with
    | none =>
        have inside : marker <:+: text := ⟨before, after, by rw [stands, List.append_assoc]⟩
        exact absurd inside (cut?_eq_none_iff.mp found)
    | some parts =>
        obtain ⟨front, back⟩ := parts
        have whole := eq_append_of_cut? found
        rw [List.append_assoc] at whole
        obtain rfl := (prefix_of_cut? found stands).eq_of_length_le (first front back whole).length_le
        have same := List.append_cancel_left (List.append_cancel_left (stands.symm.trans whole))
        rw [same]

/-- A cut is made at the first marker. -/
theorem not_infix_of_cut? {marker text before after : Text} (nonempty : marker ≠ [])
    (found : cut? marker text = some (before, after)) : ¬ marker <:+: before := by
  intro inside
  cases again : cut? marker before with
  | none => exact cut?_eq_none_iff.mp again inside
  | some parts =>
      obtain ⟨front, back⟩ := parts
      have earlier := cut?_append_of_found again (marker ++ after)
      rw [← List.append_assoc, ← eq_append_of_cut? found, found] at earlier
      have lengths := congrArg (fun parts => parts.2.length) (Option.some.inj earlier)
      have positive := List.length_pos_iff.mpr nonempty
      simp only [List.length_append] at lengths
      omega

theorem marker_not_infix_upTo (marker : Text) (nonempty : marker ≠ []) (text : Text) :
    ¬ marker <:+: upTo marker text := by
  unfold upTo
  split
  · next before after found => exact not_infix_of_cut? nonempty found
  · next absent => exact cut?_eq_none_iff.mp absent

theorem prefix_upTo (marker text : Text) : upTo marker text <+: text := by
  unfold upTo
  split
  · next before after found => exact ⟨marker ++ after, by rw [eq_append_of_cut? found]; simp⟩
  · exact List.prefix_rfl

theorem prefix_trimEnd (drop : Char → Bool) (text : Text) : trimEnd drop text <+: text := by
  have behind := List.reverse_prefix.mpr (List.dropWhile_suffix drop (l := text.reverse))
  rwa [List.reverse_reverse] at behind

theorem upTo_append_marker (marker front back : Text) :
    upTo marker (front ++ (marker ++ back)) = upTo marker (front ++ marker) := by
  cases found : cut? marker (front ++ marker) with
  | none => exact absurd (List.suffix_append front marker).isInfix (cut?_eq_none_iff.mp found)
  | some parts =>
      have longer := cut?_append_of_found found back
      rw [List.append_assoc] at longer
      rw [upTo, longer, upTo, found]

theorem trimEnd_append_cons (drop : Char → Bool) {c : Char} (kept : drop c = false)
    (front back : Text) : trimEnd drop (front ++ c :: back) = front ++ c :: trimEnd drop back := by
  have whole : (front ++ c :: back).reverse = back.reverse ++ c :: front.reverse := by simp
  rw [trimEnd, trimEnd, whole, List.dropWhile_append]
  split
  · next dropped =>
      rw [List.isEmpty_iff.mp dropped, List.dropWhile_cons_of_neg (by simp [kept])]
      simp
  · simp

end ShaderVariants.Text
