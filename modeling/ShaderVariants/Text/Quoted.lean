import ShaderVariants.Text.GraphemeExtender
import ShaderVariants.Text.Unprintable

/-!
Text in double quotes, with everything that could be mistaken on a screen written as an escape.
-/
namespace ShaderVariants.Text

/-- A code point as `\u`, its hexadecimal digits in braces. -/
def codePointEscape (c : Char) : Text :=
  ['\\', 'u', '\x7b'] ++ (Nat.toDigits 16 c.toNat) ++ ['\x7d']

def escaped (c : Char) : Text :=
  if c = '"' then ['\\', '"']
  else if c = '\\' then ['\\', '\\']
  else if c = '\n' then ['\\', 'n']
  else if c = '\r' then ['\\', 'r']
  else if c = '\t' then ['\\', 't']
  else if c = '\x00' then ['\\', '0']
  else if isGraphemeExtender c || isUnprintable c then codePointEscape c
  else [c]

def quoted (text : Text) : Text :=
  ['"'] ++ text.flatMap escaped ++ ['"']

end ShaderVariants.Text
