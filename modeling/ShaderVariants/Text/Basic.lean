/-!
Source text as the list of its characters, the searches made in it, and its words and numerals.

`cut?` is the one search: every scanner of the library goes forward by cutting the text around the
first occurrence of a marker.  `length_after_cut` says that what follows a nonempty marker is
shorter, which is why those scanners end.
-/
namespace ShaderVariants

abbrev Text := List Char

namespace Text

/-- What follows `marker`, if the text starts with it. -/
def after? : (marker text : Text) → Option Text
  | [], text => some text
  | _ :: _, [] => none
  | m :: marker, c :: text => if m = c then after? marker text else none

/-- The text before and the text after the first occurrence of `marker`. -/
def cut? (marker : Text) : Text → Option (Text × Text)
  | [] => if marker.isEmpty then some ([], []) else none
  | c :: rest =>
      match after? marker (c :: rest) with
      | some after => some ([], after)
      | none => (cut? marker rest).map fun (before, after) => (c :: before, after)

def mentions (marker text : Text) : Bool :=
  (cut? marker text).isSome

/-- The part of `text` in front of the first `marker`, all of it when there is none. -/
def upTo (marker text : Text) : Text :=
  match cut? marker text with
  | some (before, _) => before
  | none => text

def lastLine (text : Text) : Text :=
  (text.reverse.takeWhile (· ≠ '\n')).reverse

def firstLine (text : Text) : Text :=
  text.takeWhile (· ≠ '\n')

def fromLineEnd (text : Text) : Text :=
  text.dropWhile (· ≠ '\n')

/-- `text` without the characters at its end that satisfy `drop`. -/
def trimEnd (drop : Char → Bool) (text : Text) : Text :=
  (text.reverse.dropWhile drop).reverse

theorem eq_append_of_after? {marker text after : Text} (found : after? marker text = some after) :
    text = marker ++ after := by
  induction marker generalizing text with
  | nil =>
      have same : text = after := by simpa [after?] using found
      simp [same]
  | cons m marker ih =>
      cases text with
      | nil => simp [after?] at found
      | cons c text =>
          simp only [after?] at found
          split at found
          · next same => rw [same, ih found, List.cons_append]
          · simp at found

/-- A cut loses nothing but the marker. -/
theorem eq_append_of_cut? {marker text before after : Text}
    (found : cut? marker text = some (before, after)) : text = before ++ marker ++ after := by
  induction text generalizing before with
  | nil =>
      cases marker with
      | nil =>
          have parts : [] = before ∧ [] = after := by simpa [cut?] using found
          simp [← parts.1, ← parts.2]
      | cons m marker => simp [cut?] at found
  | cons c rest ih =>
      unfold cut? at found
      split at found
      · next tail starts =>
          have parts : [] = before ∧ tail = after := by simpa using found
          rw [eq_append_of_after? starts, ← parts.1, ← parts.2, List.nil_append]
      · simp only [Option.map_eq_some_iff, Prod.mk.injEq, Prod.exists] at found
        obtain ⟨front, tail, inside, rfl, rfl⟩ := found
        rw [ih inside]
        simp

theorem length_after_cut {first : Char} {marker text before after : Text}
    (found : cut? (first :: marker) text = some (before, after)) : after.length < text.length := by
  have whole := congrArg List.length (eq_append_of_cut? found)
  simp only [List.length_append, List.length_cons] at whole
  omega

/-- Whether a character is in one of some ranges of code points, ends included. -/
def inRanges (ranges : List (Nat × Nat)) (c : Char) : Bool :=
  ranges.any fun (low, high) => low ≤ c.toNat && c.toNat ≤ high

/-- The characters with the Unicode property `White_Space`. -/
def isBlank (c : Char) : Bool :=
  let code := c.toNat
  (9 ≤ code && code ≤ 13) || code == 0x20 || code == 0x85 || code == 0xA0 || code == 0x1680
    || (0x2000 ≤ code && code ≤ 0x200A) || code == 0x2028 || code == 0x2029 || code == 0x202F
    || code == 0x205F || code == 0x3000

/-- The maximal runs of characters that are not blank. -/
def words (text : Text) : List Text :=
  (text.splitOnP isBlank).filter (fun word => !word.isEmpty)

def trim (text : Text) : Text :=
  trimEnd isBlank (text.dropWhile isBlank)

theorem isBlank_of_isWhitespace {c : Char} (white : c.isWhitespace = true) : isBlank c = true := by
  simp only [Char.isWhitespace, Bool.or_eq_true, decide_eq_true_eq] at white
  rcases white with ((rfl | rfl) | rfl) | rfl <;> decide

def digitsValue (digits : Text) : Nat :=
  digits.foldl (fun value c => value * 10 + (c.toNat - '0'.toNat)) 0

/-- The number `text` writes: ASCII digits after an optional `+`, and less than `bound`. -/
def unsigned? (bound : Nat) (text : Text) : Option Nat :=
  let digits := match text with
    | '+' :: rest => rest
    | _ => text
  if digits.isEmpty || !digits.all Char.isDigit then none
  else
    let value := digitsValue digits
    if value < bound then some value else none

end Text

end ShaderVariants
