import ShaderVariants.Text.Basic

/-!
Quoted strings of TOML: basic and literal, on one line or on several.

Every reader is given the text after the opening quotes and returns the string and the text after
the closing ones.  The number that the loops count down is the length of the text they start with;
each step takes at least one character.
-/
namespace ShaderVariants.Toml

/-- The characters a comment or a literal string may hold. -/
def isOrdinary (c : Char) : Bool :=
  c = '\t' || ('\x20' ≤ c && c ≤ '\x7e') || '\x80' ≤ c

def isInlineBlank (c : Char) : Bool :=
  c = ' ' || c = '\t'

def afterNewline? : Text → Option Text
  | '\n' :: rest => some rest
  | '\r' :: '\n' :: rest => some rest
  | _ => none

/-- The value of `digits` in base sixteen. -/
def hexValue? (digits : Text) : Option Nat :=
  digits.foldlM (fun value c =>
    if c.isDigit then some (value * 16 + (c.toNat - '0'.toNat))
    else if 'a' ≤ c ∧ c ≤ 'f' then some (value * 16 + (c.toNat - 'a'.toNat + 10))
    else if 'A' ≤ c ∧ c ≤ 'F' then some (value * 16 + (c.toNat - 'A'.toNat + 10))
    else none) 0

/-- The character with the code point that the first `count` hexadecimal digits give. -/
def codePoint? (count : Nat) (text : Text) : Option (Char × Text) := do
  let digits := text.take count
  if digits.length ≠ count then none
  else
    let value ← hexValue? digits
    if value.isValidChar then return (Char.ofNat value, text.drop count) else none

/-- The character an escape stands for; the text starts after the backslash. -/
def escape? : Text → Option (Char × Text)
  | 'b' :: rest => some ('\x08', rest)
  | 't' :: rest => some ('\t', rest)
  | 'n' :: rest => some ('\n', rest)
  | 'f' :: rest => some ('\x0c', rest)
  | 'r' :: rest => some ('\r', rest)
  | '"' :: rest => some ('"', rest)
  | '\\' :: rest => some ('\\', rest)
  | 'u' :: rest => codePoint? 4 rest
  | 'U' :: rest => codePoint? 8 rest
  | _ => none

def basic? : Nat → Text → Option (Text × Text)
  | _, '"' :: rest => some ([], rest)
  | fuel + 1, '\\' :: rest => do
      let (c, rest) ← escape? rest
      let (string, rest) ← basic? fuel rest
      return (c :: string, rest)
  | fuel + 1, c :: rest => do
      if !isOrdinary c then none
      else
        let (string, rest) ← basic? fuel rest
        return (c :: string, rest)
  | _, _ => none

def literal? (text : Text) : Option (Text × Text) :=
  let string := text.takeWhile (fun c => isOrdinary c && c ≠ '\'')
  match text.drop string.length with
  | '\'' :: rest => some (string, rest)
  | _ => none

/-- What closes a string of several lines: three quotes, of which up to two more in front belong to
the string. -/
def closing? (quote : Char) (text : Text) : Option (Text × Text) :=
  let run := (text.takeWhile (· = quote)).length
  if run < 3 then none
  else
    let inside := min (run - 3) 2
    some (List.replicate inside quote, text.drop (inside + 3))

/-- The text after a backslash at the end of a line and all blanks and line breaks that follow. -/
def afterContinuation? (text : Text) : Option Text := do
  let rest ← afterNewline? (text.dropWhile isInlineBlank)
  return skip rest.length rest
where
  skip : Nat → Text → Text
    | 0, text => text
    | fuel + 1, text =>
        match afterNewline? text with
        | some rest => skip fuel rest
        | none =>
            match text with
            | c :: rest => if isInlineBlank c then skip fuel rest else text
            | [] => text

/-- The body of a string of several lines between `quote`s, with or without escapes. -/
def lines? (quote : Char) (escapes : Bool) : Nat → Text → Option (Text × Text)
  | 0, _ => none
  | _, [] => none
  | fuel + 1, c :: rest =>
      match closing? quote (c :: rest) with
      | some ended => some ended
      | none =>
          match afterNewline? (c :: rest) with
          | some rest => (lines? quote escapes fuel rest).map fun (body, rest) => ('\n' :: body, rest)
          | none =>
              if escapes && c = '\\' then
                match afterContinuation? rest with
                | some rest => lines? quote escapes fuel rest
                | none => do
                    let (escaped, rest) ← escape? rest
                    let (body, rest) ← lines? quote escapes fuel rest
                    return (escaped :: body, rest)
              else if isOrdinary c then
                (lines? quote escapes fuel rest).map fun (body, rest) => (c :: body, rest)
              else none

/-- A string of several lines; a line break right after the opening quotes does not count. -/
def multiline? (quote : Char) (escapes : Bool) (text : Text) : Option (Text × Text) :=
  let body := (afterNewline? text).getD text
  lines? quote escapes (body.length + 1) body

def string? : Text → Option (Text × Text)
  | '"' :: '"' :: '"' :: rest => multiline? '"' true rest
  | '"' :: rest => basic? rest.length rest
  | '\'' :: '\'' :: '\'' :: rest => multiline? '\'' false rest
  | '\'' :: rest => literal? rest
  | _ => none

end ShaderVariants.Toml
