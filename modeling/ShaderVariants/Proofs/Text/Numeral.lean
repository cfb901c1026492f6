import Mathlib.Data.Nat.Digits.Defs
import ShaderVariants.Proofs.Text.Trim
import ShaderVariants.Text.Basic

/-!
Numerals, alone and with blanks around them.

`unsigned?` reads exactly what `IsNumeral` says, up to its bound, and behind `trim` it reads what
`IsPadded` says.
-/
namespace ShaderVariants.Text

variable {text front core back digits : Text} {bound value : Nat} {c : Char}

def digitValue (c : Char) : Nat :=
  c.toNat - '0'.toNat

/-- Decimal digits, perhaps behind a `+`, that write `value`. -/
def IsNumeral (text : Text) (value : Nat) : Prop :=
  ∃ digits : Text, (text = digits ∨ text = '+' :: digits) ∧ digits ≠ [] ∧
    (∀ c ∈ digits, c.isDigit = true) ∧ value = Nat.ofDigits 10 (digits.reverse.map digitValue)

/-- A numeral with nothing but blanks around it. -/
def IsPadded (text : Text) (value : Nat) : Prop :=
  ∃ front numeral back, text = front ++ (numeral ++ back) ∧ (∀ c ∈ front, isBlank c = true) ∧
    (∀ c ∈ back, isBlank c = true) ∧ IsNumeral numeral value

theorem digitsValue_eq (digits : Text) :
    digitsValue digits = Nat.ofDigits 10 (digits.reverse.map digitValue) := by
  rw [Nat.ofDigits_eq_foldr, List.foldr_map, List.foldr_reverse, digitsValue]
  simp only [digitValue, Nat.cast_id, Nat.add_comm, Nat.mul_comm]

/-- What is read once a `+` in front has been taken away. -/
theorem digits_eq_some_iff :
    (if digits.isEmpty || !digits.all Char.isDigit then none
      else if digitsValue digits < bound then some (digitsValue digits) else none) = some value ↔
    (digits ≠ [] ∧ (∀ c ∈ digits, c.isDigit = true) ∧
      value = Nat.ofDigits 10 (digits.reverse.map digitValue)) ∧ value < bound := by
  rw [← digitsValue_eq]
  split
  · next refused =>
      simp only [reduceCtorEq, false_iff]
      rintro ⟨⟨nonempty, all, -⟩, -⟩
      rw [Bool.or_eq_true, List.isEmpty_iff, Bool.not_eq_true', ← Bool.not_eq_true,
        List.all_eq_true] at refused
      exact refused.elim nonempty (absurd all)
  · next accepted =>
      simp only [Bool.or_eq_true, List.isEmpty_iff, Bool.not_eq_true', not_or, Bool.not_eq_false,
        List.all_eq_true] at accepted
      split
      · next below =>
          rw [Option.some.injEq]
          constructor
          · rintro rfl
            exact ⟨⟨accepted.1, accepted.2, rfl⟩, below⟩
          · exact fun numeral => numeral.1.2.2.symm
      · next beyond =>
          simp only [reduceCtorEq, false_iff]
          rintro ⟨⟨-, -, rfl⟩, below⟩
          exact beyond below

theorem unsigned?_eq_some_iff :
    unsigned? bound text = some value ↔ IsNumeral text value ∧ value < bound := by
  constructor
  · intro read
    unfold unsigned? at read
    split at read
    · next rest =>
        obtain ⟨numeral, below⟩ := digits_eq_some_iff.mp read
        exact ⟨⟨rest, .inr rfl, numeral⟩, below⟩
    · obtain ⟨numeral, below⟩ := digits_eq_some_iff.mp read
      exact ⟨⟨text, .inl rfl, numeral⟩, below⟩
  · rintro ⟨⟨digits, written, numeral⟩, below⟩
    have read := digits_eq_some_iff.mpr ⟨numeral, below⟩
    rcases written with rfl | rfl
    · unfold unsigned?
      split
      · next rest =>
          cases numeral.2.1 '+' List.mem_cons_self
      · exact read
    · exact read

theorem isBlank_of_isDigit (digit : c.isDigit = true) : isBlank c = false := by
  have bounds : 48 ≤ c.toNat ∧ c.toNat ≤ 57 := by
    simp only [Char.isDigit, Bool.and_eq_true, decide_eq_true_eq] at digit
    exact digit
  simp only [isBlank, Bool.or_eq_false_iff, Bool.and_eq_false_iff, decide_eq_false_iff_not,
    beq_eq_false_iff_ne]
  omega

theorem solid_of_isNumeral (numeral : IsNumeral text value) :
    text ≠ [] ∧ ∀ c ∈ text, isBlank c = false := by
  obtain ⟨digits, written, nonempty, all, -⟩ := numeral
  have solid : ∀ c ∈ digits, isBlank c = false := fun c member => isBlank_of_isDigit (all c member)
  rcases written with rfl | rfl
  · exact ⟨nonempty, solid⟩
  · exact ⟨List.cons_ne_nil _ _, List.forall_mem_cons.mpr ⟨rfl, solid⟩⟩

theorem unsigned?_trim_eq_some_iff :
    unsigned? bound (trim text) = some value ↔ IsPadded text value ∧ value < bound := by
  rw [unsigned?_eq_some_iff]
  refine and_congr_left fun _ => ⟨fun numeral => ?_, ?_⟩
  · obtain ⟨front, back, whole, front_blank, back_blank⟩ := exists_append_trim text
    exact ⟨front, _, back, whole, front_blank, back_blank, numeral⟩
  · rintro ⟨front, core, back, rfl, front_blank, back_blank, numeral⟩
    obtain ⟨nonempty, solid⟩ := solid_of_isNumeral numeral
    rwa [trim_of_solid front_blank back_blank nonempty solid]

end ShaderVariants.Text
