import ShaderVariants.Toml.Quoted
import ShaderVariants.Toml.Scalar
import ShaderVariants.Toml.Table

/-!
The statements of a TOML document: headers and assignments.

Readers take the text and return what they read with the rest.  A value is read within a nesting
budget, which its recursion counts down; lists of things count down the length of the text.
-/
namespace ShaderVariants.Toml

/-- How deep arrays and inline tables may be nested. -/
def nestingLimit : Nat := 79

/-- How many parts a dotted key may have. -/
def keyLimit : Nat := 79

inductive Statement where
  /-- `[path]` -/
  | table (path : List String)
  /-- `[[path]]` -/
  | element (path : List String)
  /-- `path = value` -/
  | assign (path : List String) (value : Value)

def skipBlanks (text : Text) : Text :=
  text.dropWhile isInlineBlank

/-- The text after a comment, if there is one in front; the line break is left. -/
def skipComment (text : Text) : Text :=
  match text with
  | '#' :: rest => rest.dropWhile isOrdinary
  | _ => text

/-- The text after the end of a line on which only blanks and a comment are left. -/
def endLine? (text : Text) : Option Text :=
  match skipComment (skipBlanks text) with
  | [] => some []
  | rest => afterNewline? rest

/-- The text after blanks, comments and line breaks; a comment has to end with its line. -/
def skipLines? : Nat → Text → Option Text
  | 0, _ => none
  | fuel + 1, text =>
      let text := skipBlanks text
      match text with
      | '#' :: _ => (afterNewline? (skipComment text)).bind (skipLines? fuel)
      | '\n' :: rest => skipLines? fuel rest
      | '\r' :: rest => (Text.after? ['\n'] rest).bind (skipLines? fuel)
      | _ => some text

def isKeyCharacter (c : Char) : Bool :=
  c.isAlphanum || c = '_' || c = '-'

/-- One part of a key: quoted on one line, or bare. -/
def keyPart? (text : Text) : Option (String × Text) :=
  match text with
  | '"' :: rest => (basic? rest.length rest).map fun (key, rest) => (String.ofList key, rest)
  | '\'' :: rest => (literal? rest).map fun (key, rest) => (String.ofList key, rest)
  | _ =>
      let key := text.takeWhile isKeyCharacter
      if key.isEmpty then none else some (String.ofList key, text.drop key.length)

def keyParts? : Nat → Text → Option (List String × Text)
  | 0, _ => none
  | fuel + 1, text => do
      let (part, rest) ← keyPart? (skipBlanks text)
      match skipBlanks rest with
      | '.' :: rest => do
          let (parts, rest) ← keyParts? fuel rest
          return (part :: parts, rest)
      | rest => return ([part], rest)

def key? (text : Text) : Option (List String × Text) := do
  let (parts, rest) ← keyParts? (text.length + 1) text
  if keyLimit < parts.length then none else return (parts, rest)

/-- The items of an array, up to its closing bracket.  The count is more than the length of the text,
so it is enough for the layout between items as well. -/
def items? (value? : Text → Option (Value × Text)) : Nat → Text → Option (List Value × Text)
  | 0, _ => none
  | fuel + 1, text => do
      match ← skipLines? (fuel + 1) text with
      | ']' :: rest => return ([], rest)
      | text => do
          let (value, rest) ← value? text
          match ← skipLines? (fuel + 1) rest with
          | ',' :: rest => do
              let (values, rest) ← items? value? fuel rest
              return (value :: values, rest)
          | ']' :: rest => return ([value], rest)
          | _ => none

def fields? (value? : Text → Option (Value × Text)) :
    Nat → Text → Option (List (List String × Value) × Text)
  | 0, _ => none
  | fuel + 1, text => do
      let (path, rest) ← key? text
      let (value, rest) ← value? (skipBlanks (← Text.after? ['='] rest))
      match skipBlanks rest with
      | ',' :: rest => do
          let (fields, rest) ← fields? value? fuel rest
          return ((path, value) :: fields, rest)
      | '\x7d' :: rest => return ([(path, value)], rest)
      | _ => none

/-- An unquoted scalar.  A blank may stand between a date and its time. -/
def unquoted? (text : Text) : Option (Value × Text) :=
  let token := text.takeWhile isScalarCharacter
  let rest := text.drop token.length
  let dated? : Option (Value × Text) :=
    match rest with
    | ' ' :: later =>
        let time := later.takeWhile isScalarCharacter
        if isDate token && isTimeWithOffset time then
          some (.dateTime (String.ofList (token ++ ' ' :: time)), later.drop time.length)
        else none
    | _ => none
  match dated? with
  | some dated => some dated
  | none => (scalar? token).map fun value => (value, rest)

/-- A value with at most `budget` arrays and inline tables around any part of it. -/
def value? (budget : Nat) (text : Text) : Option (Value × Text) :=
  match text with
  | '[' :: rest =>
      match budget with
      | 0 => none
      | budget + 1 =>
          (items? (value? budget) text.length rest).map fun (items, rest) => (.array items, rest)
  | '\x7b' :: rest =>
      match budget with
      | 0 => none
      | budget + 1 =>
          match skipBlanks rest with
          | '\x7d' :: rest => some (.table [], rest)
          | rest => do
              let (fields, rest) ← fields? (value? budget) text.length rest
              let entries ← Entries.ofAssignments? fields
              return (.table (Entries.values entries), rest)
  | c :: _ =>
      if c = '"' || c = '\'' then
        (string? text).map fun (string, rest) => (.string (String.ofList string), rest)
      else unquoted? text
  | [] => none

def statement? (text : Text) : Option (Statement × Text) :=
  match text with
  | '[' :: '[' :: rest => do
      let (path, rest) ← key? rest
      return (.element path, ← Text.after? [']'] (← Text.after? [']'] rest))
  | '[' :: rest => do
      let (path, rest) ← key? rest
      return (.table path, ← Text.after? [']'] rest)
  | _ => do
      let (path, rest) ← key? text
      let (value, rest) ← value? nestingLimit (skipBlanks (← Text.after? ['='] rest))
      return (.assign path value, rest)

def statements? : Nat → Text → Option (List Statement)
  | 0, _ => none
  | fuel + 1, text =>
      match skipBlanks text with
      | [] => some []
      | c :: rest =>
          if c = '#' || c = '\n' || c = '\r' then
            (endLine? (c :: rest)).bind (statements? fuel)
          else do
            let (statement, rest) ← statement? (c :: rest)
            let later ← statements? fuel (← endLine? rest)
            return statement :: later

end ShaderVariants.Toml
