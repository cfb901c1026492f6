import ShaderVariants.Text.WordCharacter

/-!
The version line on top of a variant.

`withVersion` removes every version line of the code and puts one in front.  It goes through the
code once: at the start of a line it looks ahead for a version directive, and then either drops the
line or copies it.
-/
namespace ShaderVariants.Preamble

def isIndent (c : Char) : Bool :=
  c = ' ' || c = '\t'

def versionWord : Text := ['v', 'e', 'r', 's', 'i', 'o', 'n']

/-- Whether the code starts with a version directive: `#` and the word, each after any blanks. -/
def versionAhead (code : Text) : Bool :=
  match code.dropWhile isIndent with
  | '#' :: rest =>
      match Text.after? versionWord (rest.dropWhile isIndent) with
      | some after => Text.wordEnds after
      | none => false
  | _ => false

/-- What is being done with the current line. -/
inductive Mode where
  | deciding
  | copying
  | dropping
deriving DecidableEq, Repr

/-- The code without its version lines. -/
def remove : Mode → Text → Text
  | _, [] => []
  | .dropping, c :: rest => if c = '\n' then remove .deciding rest else remove .dropping rest
  | .copying, c :: rest =>
      c :: (if c = '\n' then remove .deciding rest else remove .copying rest)
  | .deciding, c :: rest =>
      if versionAhead (c :: rest) then remove .dropping rest
      else c :: (if c = '\n' then remove .deciding rest else remove .copying rest)

theorem remove_dropping_cons (c : Char) (rest : Text) :
    remove .dropping (c :: rest) =
      if c = '\n' then remove .deciding rest else remove .dropping rest := rfl

theorem remove_copying_cons (c : Char) (rest : Text) :
    remove .copying (c :: rest) =
      c :: (if c = '\n' then remove .deciding rest else remove .copying rest) := rfl

theorem remove_deciding_cons (c : Char) (rest : Text) :
    remove .deciding (c :: rest) =
      if versionAhead (c :: rest) then remove .dropping rest else remove .copying (c :: rest) := rfl

/-- The code with `line` as its only version line, on top. -/
def withVersion (code line : Text) : Text :=
  line ++ '\n' :: remove .deciding code

end ShaderVariants.Preamble
