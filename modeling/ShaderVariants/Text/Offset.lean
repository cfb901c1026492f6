import ShaderVariants.Text.Basic

/-!
Byte offsets in a text, as its UTF-8 encoding counts them.

`size` is the measure.  `splitAt?` cuts at an offset that falls between two characters and refuses
any other; `take` and `drop` are its total companions for offsets known to be good.
-/
namespace ShaderVariants.Text

/-- Number of bytes of the UTF-8 encoding. -/
def size (text : Text) : Nat :=
  text.foldl (fun total c => total + c.utf8Size) 0

/-- The text before and from byte offset `n`; nothing when `n` is past the end or inside a
character. -/
def splitAt? (n : Nat) (text : Text) : Option (Text × Text) :=
  if n = 0 then some ([], text)
  else
    match text with
    | [] => none
    | c :: rest =>
        if c.utf8Size ≤ n then
          (splitAt? (n - c.utf8Size) rest).map fun (before, after) => (c :: before, after)
        else none

/-- The characters that start before byte offset `n`. -/
def takeBytes (n : Nat) : Text → Text
  | [] => []
  | c :: rest => if n = 0 then [] else c :: takeBytes (n - c.utf8Size) rest

/-- The characters from byte offset `n` on. -/
def dropBytes (n : Nat) : Text → Text
  | [] => []
  | c :: rest => if n = 0 then c :: rest else dropBytes (n - c.utf8Size) rest

theorem size_nil : size [] = 0 := rfl

theorem foldl_size (text : Text) (total : Nat) :
    text.foldl (fun total c => total + c.utf8Size) total = total + size text := by
  induction text generalizing total with
  | nil => rfl
  | cons c rest ih =>
      simp only [size, List.foldl_cons]
      rw [ih, ih (0 + c.utf8Size)]
      omega

theorem size_cons (c : Char) (rest : Text) : size (c :: rest) = c.utf8Size + size rest := by
  simp only [size, List.foldl_cons]
  rw [foldl_size]
  simp [size]

theorem size_append (front back : Text) : size (front ++ back) = size front + size back := by
  induction front with
  | nil => simp [size_nil]
  | cons c rest ih => simp only [List.cons_append, size_cons, ih]; omega

end ShaderVariants.Text
