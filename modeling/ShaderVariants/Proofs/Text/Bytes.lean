import ShaderVariants.Text.Offset

/-!
Cutting a text at the byte offsets where parts of it meet.

A cut that may be refused says when it is made (`splitAt?_eq_some_iff`, `slice?_eq_some_iff`): its
offsets have to be sizes of parts of the text, so none of them is inside a character.
-/
namespace ShaderVariants.Text

variable {text front part back : Text} {n start stop : Nat}

theorem takeBytes_append (front back : Text) : takeBytes (size front) (front ++ back) = front := by
  induction front with
  | nil => cases back <;> rfl
  | cons c front ih =>
      have positive := c.utf8Size_pos
      rw [List.cons_append, takeBytes, size_cons, if_neg (by omega), Nat.add_sub_cancel_left, ih]

theorem dropBytes_append (front back : Text) : dropBytes (size front) (front ++ back) = back := by
  induction front with
  | nil => cases back <;> rfl
  | cons c front ih =>
      have positive := c.utf8Size_pos
      rw [List.cons_append, dropBytes, size_cons, if_neg (by omega), Nat.add_sub_cancel_left, ih]

theorem dropBytes_of_size_le {text : Text} {n : Nat} (past : size text ≤ n) :
    dropBytes n text = [] := by
  induction text generalizing n with
  | nil => rfl
  | cons c rest ih =>
      have positive := c.utf8Size_pos
      rw [size_cons] at past
      rw [dropBytes, if_neg (by omega)]
      exact ih (by omega)

theorem splitAt?_append (front back : Text) :
    splitAt? (size front) (front ++ back) = some (front, back) := by
  induction front with
  | nil => cases back <;> rfl
  | cons c front ih =>
      have positive := c.utf8Size_pos
      rw [List.cons_append, splitAt?, size_cons, if_neg (by omega), if_pos (by omega),
        Nat.add_sub_cancel_left, ih]
      rfl

theorem splitAt?_eq_some_iff :
    splitAt? n text = some (front, back) ↔ text = front ++ back ∧ n = size front := by
  constructor
  · intro cut
    induction text generalizing n front with
    | nil =>
        unfold splitAt? at cut
        split at cut
        · next zero =>
            cases cut
            exact ⟨rfl, zero⟩
        · cases cut
    | cons c rest ih =>
        by_cases zero : n = 0
        · rw [splitAt?, if_pos zero] at cut
          cases cut
          exact ⟨rfl, zero⟩
        · by_cases fits : c.utf8Size ≤ n
          · rw [splitAt?, if_neg zero, if_pos fits] at cut
            simp only [Option.map_eq_some_iff, Prod.mk.injEq, Prod.exists] at cut
            obtain ⟨before, after, later, rfl, rfl⟩ := cut
            obtain ⟨rfl, remaining⟩ := ih later
            refine ⟨rfl, ?_⟩
            rw [size_cons, ← remaining]
            omega
          · rw [splitAt?, if_neg zero, if_neg fits] at cut
            cases cut
  · rintro ⟨rfl, rfl⟩
    exact splitAt?_append front back

/-- Whether byte offset `n` is neither in front of a character of the text nor at its end. -/
def InsideCharacter (text : Text) (n : Nat) : Prop :=
  ∃ front c back, text = front ++ c :: back ∧ size front < n ∧ n < size front + c.utf8Size

theorem not_insideCharacter_nil (n : Nat) : ¬ InsideCharacter [] n := by
  rintro ⟨front, c, back, whole, -⟩
  simp at whole

theorem insideCharacter_cons {c : Char} {rest : Text} :
    InsideCharacter (c :: rest) n ↔
      0 < n ∧ n < c.utf8Size ∨ c.utf8Size < n ∧ InsideCharacter rest (n - c.utf8Size) := by
  constructor
  · rintro ⟨front, d, back, whole, behind, short⟩
    cases front with
    | nil =>
        cases whole
        simp only [size_nil, Nat.zero_add] at behind short
        exact .inl ⟨behind, short⟩
    | cons _ front =>
        cases whole
        rw [size_cons] at behind short
        exact .inr ⟨by omega, front, d, back, rfl, by omega, by omega⟩
  · rintro (⟨behind, short⟩ | ⟨later, front, d, back, rfl, behind, short⟩)
    · exact ⟨[], c, rest, rfl, behind, by rw [size_nil]; omega⟩
    · refine ⟨c :: front, d, back, rfl, ?_, ?_⟩ <;> rw [size_cons] <;> omega

/-- A text is cut at every offset but those past its end and those inside a character. -/
theorem splitAt?_eq_none_iff :
    splitAt? n text = none ↔ size text < n ∨ InsideCharacter text n := by
  induction text generalizing n with
  | nil =>
      have outside := not_insideCharacter_nil n
      unfold splitAt?
      split
      · next zero => simpa [zero, size_nil] using zero ▸ outside
      · next later => simp [size_nil, outside, Nat.pos_of_ne_zero later]
  | cons c rest ih =>
      have positive := c.utf8Size_pos
      rw [insideCharacter_cons, size_cons, splitAt?]
      by_cases zero : n = 0
      · simp [zero]
      · by_cases fits : c.utf8Size ≤ n
        · rw [if_neg zero, if_pos fits, Option.map_eq_none_iff, ih]
          by_cases ends : n = c.utf8Size
          · have outside : ¬ InsideCharacter rest 0 := by
              rintro ⟨front, d, back, -, behind, -⟩
              exact Nat.not_lt_zero _ behind
            simp [ends, outside]
          · have beyond : c.utf8Size < n := by omega
            have apart : ¬ n < c.utf8Size := by omega
            simp only [beyond, apart, and_false, false_or, true_and]
            refine or_congr_left ?_
            omega
        · rw [if_neg zero, if_neg fits]
          simp only [true_iff]
          exact .inr (.inl ⟨by omega, by omega⟩)

/-- The part of a text from one byte offset up to another; nothing when they are the wrong way
round, or one of them is past the end or inside a character. -/
def slice? (start stop : Nat) (text : Text) : Option Text :=
  (splitAt? stop text).bind fun (front, _) => (splitAt? start front).map Prod.snd

theorem slice?_eq_some_iff :
    slice? start stop text = some part ↔
      ∃ front rest, text = front ++ (part ++ rest) ∧
        start = size front ∧ stop = size front + size part := by
  simp only [slice?, Option.bind_eq_some_iff, Option.map_eq_some_iff, Prod.exists,
    splitAt?_eq_some_iff]
  constructor
  · rintro ⟨-, rest, ⟨rfl, rfl⟩, front, -, ⟨rfl, rfl⟩, rfl⟩
    exact ⟨front, rest, List.append_assoc _ _ _, rfl, size_append _ _⟩
  · rintro ⟨front, rest, rfl, rfl, rfl⟩
    exact ⟨front ++ part, rest, ⟨(List.append_assoc _ _ _).symm, (size_append _ _).symm⟩, front,
      part, ⟨rfl, rfl⟩, rfl⟩

theorem slice?_append (front part rest : Text) :
    slice? (size front) (size front + size part) (front ++ (part ++ rest)) = some part :=
  slice?_eq_some_iff.mpr ⟨front, rest, rfl, rfl, rfl⟩

/-- Texts of the same size in front of a whole are the same. -/
theorem eq_of_append_of_size {front other back rest : Text} (whole : front ++ back = other ++ rest)
    (same : size front = size other) : front = other := by
  have first := takeBytes_append front back
  rw [same, whole, takeBytes_append] at first
  exact first.symm

/-- The shorter one of two beginnings of a text, measured in bytes, begins the other. -/
theorem prefix_of_size_le {other rest : Text} (whole : front ++ back = other ++ rest)
    (shorter : size front ≤ size other) : front <+: other := by
  have front_first : front <+: front ++ back := List.prefix_append front back
  have other_first : other <+: front ++ back := ⟨rest, whole.symm⟩
  rcases List.prefix_or_prefix_of_prefix front_first other_first with begins | ⟨more, rfl⟩
  · exact begins
  · rw [size_append] at shorter
    have same : other = other ++ more :=
      eq_of_append_of_size whole.symm (by rw [size_append]; omega)
    exact ⟨[], by rw [List.append_nil, ← same]⟩

end ShaderVariants.Text
